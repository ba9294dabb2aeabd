import GameGateway.Node.Basic
import GameGateway.Proofs.Quiet
import GameGateway.Proofs.Token.Issue
import GameGateway.Proofs.Trace

/-!
# How often a token is taken

A node remembers the use of a token for one replay window.  The token itself is good
up to and including the instant of its expiry.  So a token is taken at most once if its
window lasts beyond that instant, and only then: with a lifetime of exactly one window
the token is good once more in the instant in which its use is forgotten, and a token
that is good until the end of time is good once more then, since no window lasts
longer (`takenOnce_of_lt`, `not_takenOnce_of_le`).
-/

namespace GameGateway

/-! ## Handshakes as calls -/

/-- A handshake as it is noted down: what the frame shows and what is answered. -/
structure HandshakeCall where
  time : Millis
  found : Except TokenRejection ValidatedToken
  answer : Except GatewayError HandshakeVerdict

namespace HandshakeCall

/-- Is a client admitted on its token? -/
def verified (c : HandshakeCall) : Bool :=
  match c.answer with
  | .ok (.verified _) => true
  | _ => false

/-- The client is admitted on the given token. -/
def Verifies (token : ValidatedToken) (c : HandshakeCall) : Prop := c.answer = .ok (.verified token)

/-- The use that a handshake presents, with the answer to it. -/
def answered (c : HandshakeCall) : Option (ReplayWindow.Answered TokenUse) :=
  match c.found with
  | .error _ => none
  | .ok token => some ⟨⟨c.time, token.key⟩, c.verified⟩

theorem time_of_answered (c : HandshakeCall) (a : ReplayWindow.Answered TokenUse)
    (h : c.answered = some a) : a.time = c.time := by
  unfold answered at h
  split at h
  · cases h
  · cases h
    rfl

theorem answered_of_verifies {c : HandshakeCall} {token : ValidatedToken} (h : c.Verifies token)
    (hfound : c.found = .ok token) : c.answered = some ⟨⟨c.time, token.key⟩, true⟩ := by
  have hverified : c.verified = true := by
    rw [verified, h]
  rw [answered, hfound]
  dsimp only
  rw [hverified]

end HandshakeCall

/-- What a node answers to a client without a good token. -/
def NodeConfig.refusal (config : NodeConfig) (rejection : TokenRejection) :
    Except GatewayError HandshakeVerdict :=
  if config.enforceProxy then .error (.rejected rejection) else .ok (.unverified rejection)

theorem NodeConfig.refusal_ne_verified {config : NodeConfig} {rejection : TokenRejection}
    {token : ValidatedToken} : config.refusal rejection ≠ .ok (.verified token) := by
  unfold refusal
  split
  · exact nofun
  · exact nofun

namespace BackendNode

/-- The token in a frame, before its use is looked at. -/
def inspect (node : BackendNode) (now : Millis) (frame : ConnectFrame) :
    Except TokenRejection ValidatedToken :=
  Handshake.inspect node.policy node.secrets.accepted now frame.referralData frame.playerId

/-- The token in a frame, unless it has been used. -/
def present (node : BackendNode) (now : Millis) (frame : ConnectFrame) :
    Except TokenRejection ValidatedToken × ReplayWindow TokenUse :=
  Handshake.present node.policy node.secrets.accepted now frame.referralData frame.playerId
    node.used

/-- What is answered to a client. -/
def verdict (node : BackendNode) :
    Except TokenRejection ValidatedToken → Except GatewayError HandshakeVerdict
  | .ok token => .ok (.verified token)
  | .error rejection => node.config.refusal rejection

theorem verdict_eq_verified_iff {node : BackendNode}
    {result : Except TokenRejection ValidatedToken} {token : ValidatedToken} :
    node.verdict result = .ok (.verified token) ↔ result = .ok token := by
  cases result with
  | ok other => simp [verdict]
  | error rejection => simp [verdict, NodeConfig.refusal_ne_verified]

theorem present_of_error {node : BackendNode} {now : Millis} {frame : ConnectFrame}
    {rejection : TokenRejection} (h : node.inspect now frame = .error rejection) :
    node.present now frame = (.error rejection, node.used) := by
  rw [inspect] at h
  rw [present, Handshake.present, h]

theorem present_of_ok {node : BackendNode} {now : Millis} {frame : ConnectFrame}
    {token : ValidatedToken} (h : node.inspect now frame = .ok token) :
    node.present now frame =
      (if (node.used.register now token.key).1 then .ok token else .error .replayed,
        (node.used.register now token.key).2) := by
  rw [inspect] at h
  rw [present, Handshake.present, h]

/-- Both nodes take the same tokens and have the same ones in mind. -/
structure SameUses (node other : BackendNode) : Prop where
  config : other.config = node.config
  secrets : other.secrets = node.secrets
  used : other.used = node.used

variable {σ : Type} {env : Surroundings σ} {slot : Slot σ BackendNode}

theorem handleHandshake_fst (frame : ConnectFrame) (s : σ) :
    (handleHandshake env slot frame s).1 =
      (slot.get s).verdict ((slot.get s).present (env.now s) frame).1 := by
  unfold handleHandshake
  dsimp only
  split
  · rename_i token htoken
    rw [present, htoken]
    rfl
  · rename_i rejection hrejection
    rw [present, hrejection]
    rfl

/-- The handshakes of a node as calls on it. -/
def handshakes (env : Surroundings σ) (slot : Slot σ BackendNode) :
    Operation σ ConnectFrame HandshakeCall where
  now := env.now
  Untouched := fun s s' => SameUses (slot.get s) (slot.get s')
  visit := fun frame s =>
    slot.modify (fun node => { node with used := (node.present (env.now s) frame).2 }) s
  finish := fun frame s => (handleHandshake env slot frame s).2
  record := fun frame s =>
    ⟨env.now s, (slot.get s).inspect (env.now s) frame, (handleHandshake env slot frame s).1⟩

/-! ## What traces of handshakes show -/

/-- The node in a state takes tokens by the given configuration. -/
structure Under (slot : Slot σ BackendNode) (config : NodeConfig) (s : σ) : Prop where
  config_eq : (slot.get s).config = config
  secrets_eq : (slot.get s).secrets = (start config 0).secrets

theorem under_start (config : NodeConfig) (opened : Millis) {s : σ}
    (h : slot.get s = start config opened) : Under slot config s where
  config_eq := by
    rw [h]
    rfl
  secrets_eq := by
    rw [h]
    rfl

/-- The node in such a state finds the tokens that it found at its start. -/
theorem Under.inspect_eq {config : NodeConfig} {s : σ} (h : Under slot config s) :
    (slot.get s).inspect = (start config 0).inspect := by
  funext now frame
  rw [inspect, inspect, policy, policy, h.config_eq, h.secrets_eq]
  rfl

theorem used_of_start {config : NodeConfig} {opened : Millis} {s : σ}
    (h : slot.get s = start config opened) :
    (slot.get s).used = .new ⟨config.replayWindow, config.replayMaxEntries⟩ opened := by
  rw [h]
  rfl

theorem Under.visit {config : NodeConfig} (frame : ConnectFrame) {s : σ}
    (h : Under slot config s) : Under slot config ((handshakes env slot).visit frame s) where
  config_eq := by
    rw [handshakes, Slot.get_modify]
    exact h.config_eq
  secrets_eq := by
    rw [handshakes, Slot.get_modify]
    exact h.secrets_eq

theorem Under.untouched {config : NodeConfig} {s s' : σ} (h : Under slot config s)
    (hsame : SameUses (slot.get s) (slot.get s')) : Under slot config s' where
  config_eq := hsame.config.trans h.config_eq
  secrets_eq := hsame.secrets.trans h.secrets_eq

theorem presents (frame : ConnectFrame) (s : σ) :
    Trace.Presents (fun s => (slot.get s).used) (handshakes env slot) HandshakeCall.answered
      frame s := by
  cases hfound : (slot.get s).inspect (env.now s) frame with
  | error rejection =>
      left
      constructor
      · simp only [handshakes, HandshakeCall.answered, hfound]
      · simp only [handshakes, Slot.get_modify, present_of_error hfound]
  | ok token =>
      right
      refine ⟨token.key, ?_, ?_⟩
      · have hverified : HandshakeCall.verified ((handshakes env slot).record frame s) =
            ((slot.get s).used.register (env.now s) token.key).1 := by
          simp only [handshakes, HandshakeCall.verified, handleHandshake_fst,
            present_of_ok hfound]
          cases ((slot.get s).used.register (env.now s) token.key).1 with
          | true => rfl
          | false =>
              by_cases henforced : (slot.get s).config.enforceProxy = true
              · simp [verdict, NodeConfig.refusal, henforced]
              · simp [verdict, NodeConfig.refusal, henforced]
        have hrecord : ((handshakes env slot).record frame s).found = .ok token := hfound
        rw [HandshakeCall.answered, hrecord]
        dsimp only
        rw [hverified]
        rfl
      · simp only [handshakes, Slot.get_modify, present_of_ok hfound]

/-- Handshakes act on the tokens that the node has in mind. -/
theorem handshakes_watch (env : Surroundings σ) (slot : Slot σ BackendNode) (config : NodeConfig) :
    Trace.Watches (handshakes env slot) (Under slot config) (fun s => (slot.get s).used)
      HandshakeCall.time HandshakeCall.answered where
  untouched _ _ hsame hs := ⟨hs.untouched hsame, hsame.used⟩
  visit frame _ hs := hs.visit frame
  presents frame s _ := presents frame s
  time_record _ _ := rfl
  time_answered := HandshakeCall.time_of_answered

/-- A handshake that admits a client on a token has found this token. -/
theorem found_of_verifies {frame : ConnectFrame} {s : σ}
    {token : ValidatedToken} (h : ((handshakes env slot).record frame s).Verifies token) :
    ((handshakes env slot).record frame s).found = .ok token := by
  have hanswer : (slot.get s).verdict ((slot.get s).present (env.now s) frame).1 =
      .ok (.verified token) := by
    rw [← handleHandshake_fst]
    exact h
  rw [verdict_eq_verified_iff] at hanswer
  cases hfound : (slot.get s).inspect (env.now s) frame with
  | error rejection =>
      rw [present_of_error hfound] at hanswer
      cases hanswer
  | ok other =>
      rw [present_of_ok hfound] at hanswer
      dsimp only at hanswer
      split at hanswer
      · cases hanswer
        exact hfound
      · cases hanswer

/-! ## Handshakes in quiet surroundings -/

theorem SameUses.refl (node : BackendNode) : SameUses node node := ⟨rfl, rfl, rfl⟩

theorem SameUses.inspect_eq {node other : BackendNode} (h : SameUses node other) :
    other.inspect = node.inspect := by
  funext now frame
  rw [inspect, inspect, policy, policy, h.config, h.secrets]

theorem notify_quiet (h : env.Quiet slot) (player : Uuid) (outcome : ValidationOutcome)
    (reason : Option TokenFault) (s : σ) :
    SameUses (slot.get s) (slot.get (notify env slot player outcome reason s)) ∧
      env.now (notify env slot player outcome reason s) = env.now s := by
  unfold notify BackendPlane.notify
  split
  · exact ⟨SameUses.refl _, rfl⟩
  · rename_i payload _
    obtain ⟨⟨tally, hget⟩, hnow⟩ := ControlEndpoint.send_quiet h
      (planeSlot.comp BackendPlane.endpointSlot) .tokenValidation payload s
    refine ⟨?_, hnow⟩
    have hsame : SameUses (slot.get s)
        ((planeSlot.comp BackendPlane.endpointSlot).modify
          (fun endpoint => { endpoint with rejects := tally }) (slot.get s)) := ⟨rfl, rfl, rfl⟩
    rw [← hget] at hsame
    exact hsame

theorem finish_quiet (h : env.Quiet slot) (frame : ConnectFrame) (s : σ) :
    SameUses (slot.get ((handshakes env slot).visit frame s))
        (slot.get ((handshakes env slot).finish frame s)) ∧
      env.now ((handshakes env slot).finish frame s) = env.now s := by
  have hvisit : env.now ((handshakes env slot).visit frame s) = env.now s := h.now_set _ s
  rw [← hvisit]
  simp only [handshakes, handleHandshake]
  split
  · exact notify_quiet h _ _ _ _
  · dsimp only
    split
    · exact ⟨SameUses.refl _, rfl⟩
    · exact notify_quiet h _ _ _ _

/-- In quiet surroundings a handshake is a trace of one call. -/
theorem trace_of_quiet (h : env.Quiet slot) (frame : ConnectFrame) (s : σ) :
    Trace (handshakes env slot) s [(handshakes env slot).record frame s]
      ((handshakes env slot).finish frame s) := by
  obtain ⟨hsame, hfinish⟩ := finish_quiet h frame s
  have hvisit : env.now ((handshakes env slot).visit frame s) = env.now s := h.now_set _ s
  have hnested : Trace (handshakes env slot) ((handshakes env slot).visit frame s) []
      ((handshakes env slot).finish frame s) :=
    .elsewhere hsame (Int64.le_of_eq (hvisit.trans hfinish.symm)) (.done _)
  exact .call frame (Int64.le_of_eq hvisit.symm) hnested (.done _)

/-! ## How often a token is taken -/

/-- The uses that handshakes present. -/
def uses (calls : List HandshakeCall) : Finset TokenUse :=
  ((calls.filterMap HandshakeCall.answered).map fun a => a.key).toFinset

/-- The state of a node some time after its start, when no use with the key has been
presented to it yet. -/
def Unused (env : Surroundings σ) (slot : Slot σ BackendNode) (config : NodeConfig)
    (key : TokenUse) (s : σ) : Prop :=
  ∃ opened s₀ calls, slot.get s₀ = start config opened ∧ Trace (handshakes env slot) s₀ calls s ∧
    key ∉ uses calls

theorem Unused.under {config : NodeConfig} {key : TokenUse} {s : σ}
    (h : Unused env slot config key s) : Under slot config s := by
  obtain ⟨opened, s₀, calls, hstart, htrace, -⟩ := h
  exact htrace.invariant (fun _ _ hsame hs => hs.untouched hsame) (fun frame _ hs => hs.visit frame)
    (under_start config opened hstart)

/-- A use that was not presented yet is new. -/
theorem Unused.register {config : NodeConfig} {key : TokenUse} {s : σ}
    (h : Unused env slot config key s) :
    ((slot.get s).used.register (env.now s) key).1 = true := by
  obtain ⟨opened, s₀, calls, hstart, htrace, hunused⟩ := h
  have htracks := htrace.tracks (handshakes_watch env slot config)
    (under_start config opened hstart) (used_of_start hstart)
  by_contra hrefused
  obtain ⟨a, ha, -, hkey, -⟩ := htracks.exists_of_refused (Bool.not_eq_true _ ▸ hrefused)
  exact hunused (List.mem_toFinset.mpr (hkey ▸ List.mem_map_of_mem ha))

/-- Whatever happens to a node, as long as it sees no more than `count` uses of tokens it
admits at most one client on the token. -/
def TakenOnce (config : NodeConfig) (count : Nat) (token : ValidatedToken) : Prop :=
  ∀ (σ : Type) (env : Surroundings σ) (slot : Slot σ BackendNode) (opened : Millis) (s s' : σ)
    (calls : List HandshakeCall), slot.get s = start config opened →
    Trace (handshakes env slot) s calls s' → (uses calls).card ≤ count →
    calls.Pairwise fun c d => ¬ (c.Verifies token ∧ d.Verifies token)

end BackendNode

theorem NodeConfig.replay_of_problems_eq_nil {config : NodeConfig} (h : config.problems = []) :
    0 < config.replayWindow ∧ 0 < config.replayMaxEntries := by
  simp only [problems, List.append_eq_nil_iff, Config.sentenceIf_eq_nil_iff] at h
  obtain ⟨⟨⟨-, hwindow⟩, hentries⟩, -⟩ := h
  constructor
  · simpa using hwindow
  · simpa [Nat.pos_iff_ne_zero] using hentries

namespace BackendNode

/-- A handshake notes down that a client is admitted on a token only if its frame shows
the token while it holds. -/
theorem holds_of_verifies {token : ValidatedToken} {s : σ} {frame : ConnectFrame}
    (h : ((handshakes env slot).record frame s).Verifies token) :
    token.token.claims.issuedAt ≤ env.now s ∧ env.now s ≤ token.token.claims.expiresAt :=
  Handshake.holds_of_inspect (found_of_verifies h)

/-- A token that expires within the window of a use at its issue is taken at most once, as
long as the node sees no more uses than it can remember. -/
theorem takenOnce_of_lt {config : NodeConfig} (hproblems : config.problems = [])
    {token : ValidatedToken} (hshort : token.token.claims.expiresAt <
      token.token.claims.issuedAt.saturatingAdd config.replayWindow) :
    TakenOnce config config.replayMaxEntries token := by
  intro σ env slot opened s s' calls hstart htrace hfew
  obtain ⟨hwindow, hentries⟩ := NodeConfig.replay_of_problems_eq_nil hproblems
  have hunder := under_start config opened hstart
  have hspan := ReplayConfig.window_validated_of_pos hwindow config.replayMaxEntries
  have happart := htrace.accepted_apart (handshakes_watch env slot config) hunder
    (used_of_start hstart) (hfew.trans
      (ReplayConfig.mk config.replayWindow config.replayMaxEntries).maxEntries_le_validated)
  have hfound : ∀ c ∈ calls, c.Verifies token → c.found = .ok token ∧
      token.token.claims.issuedAt ≤ c.time ∧ c.time ≤ token.token.claims.expiresAt :=
    htrace.forall_record (P := Under slot config) (fun s s' hsame hs => hs.untouched hsame)
      (fun frame s hs => hs.visit frame)
      (fun frame s _ h => ⟨found_of_verifies h, holds_of_verifies h⟩) hunder
  rw [hspan] at happart
  refine happart.imp_of_mem fun {c d} hc hd hapart hboth => ?_
  obtain ⟨hfoundc, hfrom, -⟩ := hfound c hc hboth.1
  obtain ⟨hfoundd, -, huntil⟩ := hfound d hd hboth.2
  have hover : c.time.saturatingAdd config.replayWindow ≤ d.time :=
    hapart _ (HandshakeCall.answered_of_verifies hboth.1 hfoundc) _
      (HandshakeCall.answered_of_verifies hboth.2 hfoundd) rfl rfl rfl
  -- So the token was good when a window since its issue was over.
  have hlate : token.token.claims.issuedAt.saturatingAdd config.replayWindow ≤
      token.token.claims.expiresAt :=
    Int64.le_trans (Millis.saturatingAdd_mono hfrom (Int64.le_refl _)) (Int64.le_trans hover huntil)
  exact Int64.not_lt.mpr hlate hshort

/-- A frame that shows a good token whose use is new admits the client. -/
theorem verifies_of_fresh {token : ValidatedToken} {frame : ConnectFrame} {s : σ}
    (hfound : (slot.get s).inspect (env.now s) frame = .ok token)
    (hfresh : ((slot.get s).used.register (env.now s) token.key).1 = true) :
    ((handshakes env slot).record frame s).Verifies token := by
  have hpresent : ((slot.get s).present (env.now s) frame).1 = .ok token := by
    rw [present_of_ok hfound, hfresh]
    rfl
  exact (handleHandshake_fst frame s).trans (verdict_eq_verified_iff.mpr hpresent)

/-- In quiet surroundings a frame that shows a good token is taken twice if the use is new
both times. -/
theorem trace_twice (h : env.Quiet slot) (first second : σ) {frame : ConnectFrame}
    {token : ValidatedToken}
    (hsame : SameUses (slot.get ((handshakes env slot).finish frame first)) (slot.get second))
    (hclock : env.now first ≤ env.now second)
    (hfound : (slot.get first).inspect (env.now first) frame = .ok token)
    (hfresh : ((slot.get first).used.register (env.now first) token.key).1 = true)
    (hfound' : (slot.get first).inspect (env.now second) frame = .ok token)
    (hfresh' : (((slot.get first).used.register (env.now first) token.key).2.register
      (env.now second) token.key).1 = true) :
    ∃ c d s', Trace (handshakes env slot) first [c, d] s' ∧ c.Verifies token ∧ d.Verifies token ∧
      uses [c, d] = {token.key} := by
  obtain ⟨hbetween, hnow⟩ := finish_quiet h frame first
  have hvisit : slot.get ((handshakes env slot).visit frame first) =
      { slot.get first with used := ((slot.get first).present (env.now first) frame).2 } :=
    slot.get_set _ _
  rw [hvisit, present_of_ok hfound] at hbetween
  have hinspect : (slot.get second).inspect = (slot.get first).inspect := by
    rw [hsame.inspect_eq, hbetween.inspect_eq]
    rfl
  have hused : (slot.get second).used =
      ((slot.get first).used.register (env.now first) token.key).2 := by
    rw [hsame.used, hbetween.used]
  have hfirst : ((handshakes env slot).record frame first).Verifies token :=
    verifies_of_fresh hfound hfresh
  have hsecond : ((handshakes env slot).record frame second).Verifies token :=
    verifies_of_fresh (hinspect ▸ hfound') (hused ▸ hfresh')
  have hrest : Trace (handshakes env slot) ((handshakes env slot).finish frame first)
      [(handshakes env slot).record frame second] ((handshakes env slot).finish frame second) :=
    .elsewhere hsame (Int64.le_trans (Int64.le_of_eq hnow) hclock) (trace_of_quiet h frame second)
  refine ⟨_, _, _, (trace_of_quiet h frame first).append hrest, hfirst, hsecond, ?_⟩
  simp [uses, HandshakeCall.answered_of_verifies hfirst (found_of_verifies hfirst),
    HandshakeCall.answered_of_verifies hsecond (found_of_verifies hsecond)]

/-- A node that takes a token at its issue takes it again when it expires, if the window of
the first use is over by then. -/
theorem not_takenOnce_of_le {config : NodeConfig} (hproblems : config.problems = [])
    (token : ValidatedToken) {frame : ConnectFrame} {count : Nat} (hcount : 0 < count)
    (hissue : (start config 0).inspect token.token.claims.issuedAt frame = .ok token)
    (hlong : token.token.claims.issuedAt.saturatingAdd config.replayWindow ≤
      token.token.claims.expiresAt) : ¬ TakenOnce config count token := by
  intro honce
  obtain ⟨hwindow, -⟩ := NodeConfig.replay_of_problems_eq_nil hproblems
  have hspan := ReplayConfig.window_validated_of_pos hwindow config.replayMaxEntries
  obtain ⟨-, horder⟩ := Handshake.holds_of_inspect hissue
  have hexpiry : (start config 0).inspect token.token.claims.expiresAt frame = .ok token :=
    (Handshake.inspect_eq_ok_iff_of_ok hissue).mpr ⟨horder, Int64.le_refl _⟩
  obtain ⟨hfresh, hagain⟩ := ReplayWindow.accepted_twice
    ⟨config.replayWindow, config.replayMaxEntries⟩ token.token.claims.issuedAt token.key horder
    (by rw [hspan]; exact hlong)
  let first : Alone BackendNode :=
    ⟨token.token.claims.issuedAt, start config token.token.claims.issuedAt⟩
  let later : Alone BackendNode := (handshakes Alone.env Alone.slot).finish frame first
  obtain ⟨c, d, s', htrace, hc, hd, huses⟩ := trace_twice Alone.quiet first
    { later with clock := token.token.claims.expiresAt } (SameUses.refl _) horder hissue hfresh
    hexpiry hagain
  have hpairs := honce _ _ _ _ _ _ _ rfl htrace (by rw [huses]; exact hcount)
  exact (List.pairwise_cons.mp hpairs).1 d (List.mem_singleton_self d) ⟨hc, hd⟩

/-- **How often a token is taken.**  A node that sees no more uses than it can remember takes
a token at most once, whatever happens to it, if the token expires before a window that opens
at its issue is over.  A token that a node takes at all at its issue is taken twice otherwise,
even if no other token is ever seen. -/
theorem takenOnce_exact {config : NodeConfig} (hproblems : config.problems = [])
    (token : ValidatedToken) :
    (token.token.claims.expiresAt < token.token.claims.issuedAt.saturatingAdd config.replayWindow →
      TakenOnce config config.replayMaxEntries token) ∧
    ∀ frame count, (start config 0).inspect token.token.claims.issuedAt frame = .ok token →
      0 < count → TakenOnce config count token → token.token.claims.expiresAt <
        token.token.claims.issuedAt.saturatingAdd config.replayWindow := by
  refine ⟨takenOnce_of_lt hproblems, fun frame count hissue hcount honce => ?_⟩
  by_contra hlong
  exact not_takenOnce_of_le hproblems token hcount hissue (Int64.not_lt.mp hlong) honce

/-- A node with the settings that are in force if nothing else is said. -/
def lobby : NodeConfig := { serverId := "lobby", secret := "an unguessable text of 32 letters" }

/-- A token for the lobby that holds from the epoch on. -/
def lobbyToken (expiresAt : Millis) (h : 0 ≤ expiresAt) : ProxyToken where
  claims :=
    ⟨Claims.currentVersion, .ofNat 7, "lobby", 0, expiresAt, some "aa", some "bb", some "cc"⟩
  checked := by
    have htimes : Claims.checkTimes 0 expiresAt = .ok () := by
      rw [Claims.checkTimes, if_neg (by decide), if_neg (Int64.not_lt.mpr h)]
    have htarget : Claims.checkId "target_server_id" "lobby" = .ok () := by decide
    exact ProxyClaims.check_eq_ok_iff.mpr ⟨htarget, htimes, rfl, rfl, rfl⟩

/-- A millisecond less than the window is short enough. -/
theorem takenOnce_below_window :
    lobby.problems = [] ∧ TakenOnce lobby lobby.replayMaxEntries
      ((lobbyToken 9999 (by decide)).validated ⟨"lobby", true⟩ (Utf8.encode lobby.secret)) := by
  have hproblems : lobby.problems = [] := by decide
  exact ⟨hproblems, (takenOnce_exact hproblems _).1 (by decide)⟩

/-- A token that lasts as long as the window, as tokens do by default, can be taken twice:
at its issue and in the instant of its expiry. -/
theorem taken_twice_at_window :
    ¬ ∀ (config : NodeConfig) (token : ValidatedToken), config.problems = [] →
      token.token.claims.expiresAt.toInt - token.token.claims.issuedAt.toInt ≤
        config.replayWindow.toInt → TakenOnce config (config.replayMaxEntries - 1) token := by
  intro h
  have hproblems : lobby.problems = [] := by decide
  let token : ProxyToken := lobbyToken 10000 (by decide)
  let frame : ConnectFrame :=
    { referralData := some (Utf8.encode (token.encode (Utf8.encode lobby.secret))) }
  have hadmits : (start lobby 0).policy.Admits token.claims.readBack :=
    ⟨rfl, fun _ => ⟨nofun, nofun⟩, rfl⟩
  let found : ValidatedToken := token.validated (start lobby 0).policy (Utf8.encode lobby.secret)
  have hissued : found.token.claims.issuedAt = 0 := rfl
  have hexpires : found.token.claims.expiresAt = 10000 := rfl
  have hissue : (start lobby 0).inspect found.token.claims.issuedAt frame = .ok found :=
    ProxyToken.inspect_encode (List.mem_cons_self ..) hadmits ⟨Int64.le_refl 0, by decide⟩ nofun
  have hlong : found.token.claims.issuedAt.saturatingAdd lobby.replayWindow ≤
      found.token.claims.expiresAt := by
    rw [hissued, hexpires]
    decide
  refine not_takenOnce_of_le hproblems found (by decide) hissue hlong (h lobby found hproblems ?_)
  rw [hissued, hexpires]
  decide

end BackendNode

end GameGateway
