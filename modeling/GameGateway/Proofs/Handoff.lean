import GameGateway.Proofs.Proxy.Accepting
import GameGateway.Proofs.Replay.TokenUse
import GameGateway.Proofs.Wire.ConnectFrame

/-!
# From the proxy to the backend

A connection goes through two processes.  The proxy reads the client's frame, chooses
a backend and writes the frame again with a token in it; the node of that backend reads
what the proxy has written and looks at the token.  If the two share a secret, then the
node finds in the frame what the proxy has put there: everything that the client said,
and a token for this player and this backend (`inspect_forwarded`).

So nothing but the clock, the certificates and an earlier use can keep the client out.
-/

namespace GameGateway

namespace Fingerprint

theorem ofCertificate_ne_empty (certificate : Bytes) : ofCertificate certificate ≠ "" := by
  refine Base64Url.encode_ne_empty fun hnil => ?_
  have hlength := (Sha256.digest certificate).length_eq
  rw [hnil] at hlength
  cases hlength

theorem exists_ne_empty_iff {certificate : Option Bytes} :
    (∃ text, certificate.map ofCertificate = some text ∧ text ≠ "") ↔ certificate ≠ none := by
  cases certificate with
  | none => simp
  | some certificate => simp [ofCertificate_ne_empty]

end Fingerprint

namespace Proxy

/-! ## The token in a forwarded frame -/

/-- The claims of the token that goes with a frame. -/
def claimsFor (proxy : Proxy) (now : Millis) (nonce : Nonce) (player : Uuid)
    (clientCert : Option String) (backend : String) : ProxyClaims :=
  ⟨Claims.currentVersion, player, backend, now,
    now.saturatingAdd (max 1 proxy.config.security.proxyTokenTtl), clientCert,
    proxy.config.security.proxyCert, some (Base64Url.encode nonce.bytes)⟩

/-- A forwarded frame is the client's own with the text of a token in it. -/
theorem forward_eq_ok {proxy : Proxy} {now : Millis} {nonce : Nonce} {frame : ConnectFrame}
    {player : Uuid} {clientCert : Option String} {backend : String} {bytes : Bytes}
    (h : proxy.forward now nonce frame player clientCert backend = .ok bytes) :
    ∃ token : ProxyToken,
      token.claims = proxy.claimsFor now nonce player clientCert backend ∧
      (frame.withReferral (Utf8.encode (token.encode proxy.secrets.current))
        proxy.config.referral).encode proxy.config.limits = .ok bytes := by
  unfold forward at h
  obtain ⟨text, hissue, hencode⟩ := bind_eq_ok_iff.mp h
  rw [mapError_eq_ok_iff] at hissue hencode
  unfold ProxyToken.issue at hissue
  obtain ⟨token, htoken, htext⟩ := bind_eq_ok_iff.mp hissue
  cases htext
  exact ⟨token, ProxyToken.ofClaims_eq_ok_iff.mp htoken, hencode⟩

end Proxy

/-- If the node asks for certificates, then the client has given one and the proxy names its
own. -/
def NodeConfig.Certified (node : NodeConfig) (certificate : Option Bytes)
    (proxyCert : Option String) : Prop :=
  node.requireCertificates = true → certificate ≠ none ∧ ∃ text, proxyCert = some text ∧ text ≠ ""

section Forwarded

variable {proxy : Proxy} {now : Millis} {nonce : Nonce} {player : Uuid}
  {certificate : Option Bytes} {node : NodeConfig}

theorem clientCert_ne_none_iff {backend : String} :
    (proxy.claimsFor now nonce player (certificate.map Fingerprint.ofCertificate)
      backend).readBack.clientCert ≠ none ↔ certificate ≠ none :=
  Claims.filter_ne_none_iff.trans Fingerprint.exists_ne_empty_iff

theorem proxyCert_ne_none_iff {clientCert : Option String} {backend : String} :
    (proxy.claimsFor now nonce player clientCert backend).readBack.proxyCert ≠ none ↔
      ∃ text, proxy.config.security.proxyCert = some text ∧ text ≠ "" :=
  Claims.filter_ne_none_iff

/-- The node of the chosen backend admits the claims if the certificates are there. -/
theorem admits_claimsFor_iff :
    (BackendNode.start node 0).policy.Admits (proxy.claimsFor now nonce player
      (certificate.map Fingerprint.ofCertificate) node.serverId).readBack ↔
      node.Certified certificate proxy.config.security.proxyCert := by
  constructor
  · intro h hrequired
    obtain ⟨hclient, hproxy⟩ := h.certificates hrequired
    exact ⟨clientCert_ne_none_iff.mp hclient, proxyCert_ne_none_iff.mp hproxy⟩
  · intro h
    refine ⟨rfl, fun hrequired => ?_, rfl⟩
    obtain ⟨hclient, hproxy⟩ := h hrequired
    exact ⟨clientCert_ne_none_iff.mpr hclient, proxyCert_ne_none_iff.mpr hproxy⟩

/-- Without the certificates that the node asks for the claims are refused at any time. -/
theorem checkClaims_of_not_certified
    (h : ¬ node.Certified certificate proxy.config.security.proxyCert) (later : Millis) :
    (BackendNode.start node 0).policy.checkClaims later (proxy.claimsFor now nonce player
      (certificate.map Fingerprint.ofCertificate) node.serverId).readBack =
        .error .certificates := by
  obtain ⟨hrequired, hmissing⟩ := Classical.not_imp.mp h
  refine TokenPolicy.checkClaims_of_missing rfl hrequired ?_
  by_contra hthere
  obtain ⟨hclient, hproxy⟩ := not_or.mp hthere
  exact hmissing ⟨clientCert_ne_none_iff.mp hclient, proxyCert_ne_none_iff.mp hproxy⟩

/-! ## The node finds the token -/

variable {token : ProxyToken} {given : ConnectFrame} {source : HostAddress} {later : Millis}

/-- While the token holds, the node finds it in the forwarded frame. -/
theorem inspect_forwarded
    (hclaims : token.claims = proxy.claimsFor now nonce player
      (certificate.map Fingerprint.ofCertificate) node.serverId)
    (hplayer : given.playerId = some player)
    (hsecret : proxy.secrets.current ∈ (BackendNode.start node 0).secrets.accepted)
    (hcertified : node.Certified certificate proxy.config.security.proxyCert)
    (hfrom : now ≤ later)
    (huntil : later ≤ now.saturatingAdd proxy.config.security.proxyTokenTtl) :
    (BackendNode.start node 0).inspect later
        (given.withReferral (Utf8.encode (token.encode proxy.secrets.current)) source) =
      .ok (token.validated (BackendNode.start node 0).policy proxy.secrets.current) := by
  refine ProxyToken.inspect_encode hsecret ?_ ⟨?_, ?_⟩ fun claimed hclaimed => ?_
  · rw [hclaims]
    exact admits_claimsFor_iff.mpr hcertified
  · rw [hclaims]
    exact hfrom
  · rw [hclaims]
    exact Int64.le_trans huntil
      (Millis.saturatingAdd_mono (Int64.le_refl now) (Millis.le_max_right ..))
  · rw [hclaims]
    exact Option.some.inj (hclaimed.symm.trans hplayer)

/-- When the lifetime of the token is over, the node finds that. -/
theorem inspect_forwarded_of_late
    (hclaims : token.claims = proxy.claimsFor now nonce player
      (certificate.map Fingerprint.ofCertificate) node.serverId)
    (hsecret : proxy.secrets.current ∈ (BackendNode.start node 0).secrets.accepted)
    (hcertified : node.Certified certificate proxy.config.security.proxyCert)
    (hlate : now.saturatingAdd (max 1 proxy.config.security.proxyTokenTtl) < later) :
    (BackendNode.start node 0).inspect later
        (given.withReferral (Utf8.encode (token.encode proxy.secrets.current)) source) =
      .error (.expired .proxy
        (now.saturatingAdd (max 1 proxy.config.security.proxyTokenTtl))) := by
  have hspan : (0 : Millis) ≤ max 1 proxy.config.security.proxyTokenTtl :=
    Int64.le_trans (by decide) (Millis.le_max_left ..)
  have horder : now ≤ now.saturatingAdd (max 1 proxy.config.security.proxyTokenTtl) :=
    Millis.le_saturatingAdd now hspan
  refine ProxyToken.inspect_encode_of_error hsecret ?_ given.playerId
  rw [hclaims]
  exact TokenPolicy.checkClaims_of_expired (admits_claimsFor_iff.mpr hcertified) horder hlate

/-- Without the certificates that the node asks for, it finds that at any time. -/
theorem inspect_forwarded_of_not_certified
    (hclaims : token.claims = proxy.claimsFor now nonce player
      (certificate.map Fingerprint.ofCertificate) node.serverId)
    (hsecret : proxy.secrets.current ∈ (BackendNode.start node 0).secrets.accepted)
    (hmissing : ¬ node.Certified certificate proxy.config.security.proxyCert) :
    (BackendNode.start node 0).inspect later
        (given.withReferral (Utf8.encode (token.encode proxy.secrets.current)) source) =
      .error .certificates := by
  refine ProxyToken.inspect_encode_of_error hsecret ?_ given.playerId
  rw [hclaims]
  exact checkClaims_of_not_certified hmissing later

end Forwarded

/-! ## The answer to a first presentation -/

namespace BackendNode

/-- A node that has not seen the use yet gives this answer to a frame at this instant. -/
def FirstAnswer (config : NodeConfig) (key : TokenUse) (frame : ConnectFrame) (now : Millis)
    (answer : Except GatewayError HandshakeVerdict) : Prop :=
  ∀ (σ : Type) (env : Surroundings σ) (slot : Slot σ BackendNode) (s : σ),
    Unused env slot config key s → env.now s = now → (handleHandshake env slot frame s).1 = answer

variable {config : NodeConfig} {frame : ConnectFrame} {now : Millis}

theorem firstAnswer_of_ok {token : ValidatedToken}
    (h : (start config 0).inspect now frame = .ok token) :
    FirstAnswer config token.key frame now (.ok (.verified token)) := by
  rintro σ env slot s hunused rfl
  rw [← hunused.under.inspect_eq] at h
  exact verifies_of_fresh h hunused.register

theorem firstAnswer_of_error {rejection : TokenRejection} (key : TokenUse)
    (h : (start config 0).inspect now frame = .error rejection) :
    FirstAnswer config key frame now (config.refusal rejection) := by
  rintro σ env slot s hunused rfl
  rw [← hunused.under.inspect_eq] at h
  rw [handleHandshake_fst, present_of_error h, verdict, hunused.under.config_eq]

end BackendNode

/-! ## End to end -/

namespace Proxy

variable {σ : Type} {env : Surroundings σ} {slot : Slot σ Proxy} {s : σ} {node : NodeConfig}
  {certificate : Option Bytes} {a : Accepted}

/-- **From the proxy to the backend.**  Say a proxy accepts a connection for the backend of a
node that accepts the proxy's secret.  Then the forwarded frame reads as the client's own
with a referral, and in the referral is a token for the client's player and that backend.
At its first presentation the token admits the client, from the instant of the connection
until its lifetime is over, if the certificates that the node asks for are there.  A client
without them is refused at any time, and one that comes later is as well. -/
theorem handoff (h : env.Quiet slot) {bytes : Bytes} {client : ConnectionId}
    {address : Option ClientAddress}
    (haccept : (acceptConnection env slot bytes client address certificate s).1 = .ok a)
    (hlimit : (slot.get s).config.limits.frame < 2 ^ 32)
    (hsecret : (slot.get s).secrets.current ∈ (BackendNode.start node 0).secrets.accepted)
    (hbackend : a.backend.id = node.serverId) :
    ∃ given forwarded : ConnectFrame, ∃ data, ∃ token : ValidatedToken,
      ConnectFrame.decode? (slot.get s).config.limits bytes = some given ∧
      ConnectFrame.decode? (slot.get s).config.limits a.frame = some forwarded ∧
      forwarded = given.withReferral data (slot.get s).config.referral ∧
      given.playerId = some token.token.claims.player ∧
      token.token.claims.target = node.serverId ∧
      (node.Certified certificate (slot.get s).config.security.proxyCert →
        ∀ now, env.now s ≤ now →
          now ≤ (env.now s).saturatingAdd (slot.get s).config.security.proxyTokenTtl →
          BackendNode.FirstAnswer node token.key forwarded now (.ok (.verified token))) ∧
      (node.Certified certificate (slot.get s).config.security.proxyCert →
        ∀ now, (env.now s).saturatingAdd (max 1 (slot.get s).config.security.proxyTokenTtl) < now →
          BackendNode.FirstAnswer node token.key forwarded now (node.refusal (.expired .proxy
            ((env.now s).saturatingAdd (max 1 (slot.get s).config.security.proxyTokenTtl))))) ∧
      (¬ node.Certified certificate (slot.get s).config.security.proxyCert →
        ∀ now, BackendNode.FirstAnswer node token.key forwarded now
          (node.refusal .certificates)) := by
  obtain ⟨given, player, nonce, hgiven, hplayer, hforward⟩ := acceptConnection_eq_ok h haccept
  rw [hbackend] at hforward
  obtain ⟨token, hclaims, hencode⟩ := forward_eq_ok hforward
  have hread := ConnectFrame.decode?_of_encode hlimit hencode
  have hsame : token.claims.player = player := congrArg ProxyClaims.player hclaims
  have htarget : token.claims.target = node.serverId := congrArg ProxyClaims.target hclaims
  refine ⟨given, _, _, token.validated (BackendNode.start node 0).policy
    (slot.get s).secrets.current, hgiven, hread, rfl, ?_, htarget, ?_, ?_, ?_⟩
  · rw [hplayer, ← hsame]
    rfl
  · intro hcertified now hfrom huntil
    exact BackendNode.firstAnswer_of_ok
      (inspect_forwarded hclaims hplayer hsecret hcertified hfrom huntil)
  · intro hcertified now hlate
    exact BackendNode.firstAnswer_of_error _
      (inspect_forwarded_of_late hclaims hsecret hcertified hlate)
  · intro hmissing now
    exact BackendNode.firstAnswer_of_error _
      (inspect_forwarded_of_not_certified hclaims hsecret hmissing)

/-- A proxy for the lobby. -/
def lobbyProxy : ProxyConfig where
  security := { secret := BackendNode.lobby.secret, proxyCert := some "aa" }
  backends := [⟨"lobby", "10.0.0.1", 25565⟩]

/-- The frame of a client that says who it is and nothing else. -/
def hello : ConnectFrame := { playerId := some (.ofNat 7) }

/-- With the settings that are in force if nothing else is said, a client that connects with
a certificate is admitted to the lobby up to the last instant of its token. -/
theorem handoff_to_lobby :
    lobbyProxy.problems = [] ∧ BackendNode.lobby.problems = [] ∧
      ∃ a forwarded, ∃ token : ValidatedToken,
        (acceptConnection Alone.env Alone.slot hello.write ⟨0⟩ none (some [1, 2, 3])
          ⟨0, start lobbyProxy 0⟩).1 = .ok a ∧
        ConnectFrame.decode? lobbyProxy.limits a.frame = some forwarded ∧
        (BackendNode.handleHandshake Alone.env Alone.slot forwarded
          ⟨10000, BackendNode.start BackendNode.lobby 0⟩).1 = .ok (.verified token) := by
  have hlobby : ((acceptConnection Alone.env Alone.slot hello.write ⟨0⟩ none (some [1, 2, 3])
      ⟨0, start lobbyProxy 0⟩).1.toOption.map fun a => a.backend.id) = some "lobby" := by
    decide +kernel
  obtain ⟨a, hoption, hbackend⟩ := Option.map_eq_some_iff.mp hlobby
  have haccept := toOption_eq_some_iff.mp hoption
  have hlimit : lobbyProxy.limits.frame < 2 ^ 32 := by decide
  obtain ⟨-, forwarded, -, token, -, hforwarded, -, -, -, hverified, -⟩ :=
    handoff Alone.quiet haccept hlimit (List.mem_cons_self ..)
      (hbackend : a.backend.id = BackendNode.lobby.serverId)
  have hcertified : BackendNode.lobby.Certified (some [1, 2, 3]) lobbyProxy.security.proxyCert :=
    fun _ => ⟨nofun, "aa", rfl, by decide⟩
  have hunused : BackendNode.Unused Alone.env Alone.slot BackendNode.lobby token.key
      ⟨10000, BackendNode.start BackendNode.lobby 0⟩ :=
    ⟨0, _, [], rfl, .done _, by simp [BackendNode.uses]⟩
  have hfrom : (0 : Millis) ≤ 10000 := by decide
  have huntil : (10000 : Millis) ≤ Millis.saturatingAdd 0 lobbyProxy.security.proxyTokenTtl := by
    decide
  exact ⟨by decide, by decide, a, forwarded, token, haccept, hforwarded,
    hverified hcertified 10000 hfrom huntil _ _ _ _ hunused rfl⟩

end Proxy

end GameGateway
