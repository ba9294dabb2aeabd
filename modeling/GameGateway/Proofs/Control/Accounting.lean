import GameGateway.Control.BackendPlane
import GameGateway.Proofs.Control.Sending
import GameGateway.Proofs.Wire.Notice

/-!
# Every packet is accounted for

A packet that comes in passes nine steps in a fixed order (`ControlEndpoint.steps`).  Six of
them look at the packet and at the rules of the endpoint, one looks whether the packet was
seen before, and two belong to the side that reads it: whether it takes messages of that
kind, and whether the payload decodes.

A packet that passes all of them is handed to the handler of its kind, and nothing is
counted.  A packet that fails one of them changes nothing but the endpoint, where the first
step that it fails is counted once.  The lease that is out while a packet is read comes back
in either case.  The sixth step is never the first to fail: a payload is shorter than its
packet, and that was measured before.

What the two sides have in common is said once, for any `Reading`; the two sides differ in
what they read.
-/

namespace GameGateway

namespace ControlEndpoint

/-! ## The steps of a packet -/

/-- What a side of the control channel reads: which kinds of messages, and what it does about
a payload of that kind if the payload decodes. -/
structure Reading (σ : Type) where
  supports : MessageKind → Bool
  handler? : MessageKind → Bytes → Option (σ → σ)

/-- The steps before the look at what was seen, each under its reason. -/
def checks : List RejectReason :=
  [.packetTooLarge, .ingressBackpressure, .malformedEnvelope, .unexpectedSender,
    .invalidTimestamp, .payloadTooLarge]

/-- All steps, in the order in which a packet takes them. -/
def steps : List RejectReason :=
  checks ++ [.replayed, .unsupportedType, .malformedPayload]

namespace Reading

variable {σ : Type}

/-- What a step asks of an envelope. -/
def Suits (reading : Reading σ) (endpoint : ControlEndpoint) (now : Millis)
    (envelope : Envelope) : RejectReason → Prop
  | .unexpectedSender => endpoint.senders.allows envelope.sender = true
  | .invalidTimestamp => envelope.isTimely now endpoint.config.maxClockSkew = true
  | .payloadTooLarge => envelope.payload.length ≤ endpoint.config.maxPayload
  | .replayed => ¬ endpoint.seen.Blocks now (keyOf envelope)
  | .unsupportedType => reading.supports envelope.kind = true
  | .malformedPayload => (reading.handler? envelope.kind envelope.payload).isSome = true
  | _ => True

/-- What a step asks of a packet: from the third one on there has to be an envelope in it. -/
def Passes (reading : Reading σ) (endpoint : ControlEndpoint) (now : Millis) (packet : Bytes) :
    RejectReason → Prop
  | .packetTooLarge => packet.length ≤ endpoint.config.maxPayload
  | .ingressBackpressure => endpoint.limiter.count < endpoint.limiter.limit
  | step => ∃ envelope, Envelope.decode? packet = some envelope ∧
      reading.Suits endpoint now envelope step

/-- The packet passes every step before this one, and not this one. -/
def FailsFirst (reading : Reading σ) (endpoint : ControlEndpoint) (now : Millis)
    (packet : Bytes) (reason : RejectReason) : Prop :=
  ∃ before after, steps = before ++ reason :: after ∧
    (∀ step ∈ before, reading.Passes endpoint now packet step) ∧
    ¬ reading.Passes endpoint now packet reason

variable {reading : Reading σ} {endpoint : ControlEndpoint} {now : Millis} {packet : Bytes}
  {envelope : Envelope} {reason : RejectReason}

/-- There is one envelope in a packet, so a step asks about that one. -/
theorem exists_suits_iff (hdecode : Envelope.decode? packet = some envelope) {step : RejectReason} :
    (∃ found, Envelope.decode? packet = some found ∧ reading.Suits endpoint now found step) ↔
      reading.Suits endpoint now envelope step := by
  constructor
  · rintro ⟨found, hfound, hsuits⟩
    rw [hdecode] at hfound
    cases hfound
    exact hsuits
  · intro hsuits
    exact ⟨envelope, hdecode, hsuits⟩

theorem passes_checks_iff : (∀ step ∈ checks, reading.Passes endpoint now packet step) ↔
    ∃ envelope, endpoint.inspect now packet = .ok envelope := by
  simp only [checks, List.forall_mem_cons, inspect_eq_ok_iff]
  constructor
  · rintro ⟨hlong, hroom, ⟨envelope, hdecode, -⟩, hsender, htimely, hpayload, -⟩
    exact ⟨envelope, hlong, hroom, hdecode, (exists_suits_iff hdecode).mp hsender,
      (exists_suits_iff hdecode).mp htimely, (exists_suits_iff hdecode).mp hpayload⟩
  · rintro ⟨envelope, hlong, hroom, hdecode, hsender, htimely, hpayload⟩
    exact ⟨hlong, hroom, ⟨envelope, hdecode, trivial⟩, ⟨envelope, hdecode, hsender⟩,
      ⟨envelope, hdecode, htimely⟩, ⟨envelope, hdecode, hpayload⟩, List.forall_mem_nil _⟩

/-- A packet that the endpoint refuses unseen fails one of the checks first, and never the one
on the length of the payload. -/
theorem failsFirst_of_inspect (h : endpoint.inspect now packet = .error reason) :
    reading.FailsFirst endpoint now packet reason ∧ reason ≠ .payloadTooLarge := by
  unfold inspect at h
  -- One split for each check, in their order: the packet fails it first, or has passed it.
  split at h
  · rename_i hlong
    cases h
    exact ⟨⟨[], _, rfl, nofun, Nat.not_le.mpr hlong⟩, nofun⟩
  rename_i hshort
  have hlength : reading.Passes endpoint now packet .packetTooLarge := Nat.not_lt.mp hshort
  split at h
  · rename_i hbusy
    cases h
    exact ⟨⟨[.packetTooLarge], _, rfl, by simpa using hlength, Nat.not_lt.mpr hbusy⟩, nofun⟩
  rename_i hidle
  have hroom : reading.Passes endpoint now packet .ingressBackpressure := Nat.not_le.mp hidle
  split at h
  · rename_i hnone
    cases h
    refine ⟨⟨[.packetTooLarge, .ingressBackpressure], _, rfl, by simp [hlength, hroom], ?_⟩, nofun⟩
    rintro ⟨envelope, hdecode, -⟩
    rw [hnone] at hdecode
    cases hdecode
  rename_i envelope hdecode
  have henvelope : reading.Passes endpoint now packet .malformedEnvelope :=
    ⟨envelope, hdecode, trivial⟩
  split at h
  · rename_i hsender
    cases h
    refine ⟨⟨[.packetTooLarge, .ingressBackpressure, .malformedEnvelope], _, rfl,
      by simp [hlength, hroom, henvelope], (exists_suits_iff hdecode).not.mpr ?_⟩, nofun⟩
    simpa [Suits] using hsender
  rename_i hsender
  have hallowed : reading.Passes endpoint now packet .unexpectedSender :=
    ⟨envelope, hdecode, by simpa [Suits] using hsender⟩
  split at h
  · rename_i htimely
    cases h
    refine ⟨⟨[.packetTooLarge, .ingressBackpressure, .malformedEnvelope, .unexpectedSender], _, rfl,
      by simp [hlength, hroom, henvelope, hallowed], (exists_suits_iff hdecode).not.mpr ?_⟩, nofun⟩
    simpa [Suits] using htimely
  split at h
  · -- The packet was measured against the same bound.
    have hshorter := Envelope.length_of_decode? hdecode
    omega
  · cases h

/-- The packet gets as far as the look at what was seen. -/
theorem failsFirst_replayed (hfound : endpoint.inspect now packet = .ok envelope)
    (hblocks : endpoint.seen.Blocks now (keyOf envelope)) :
    reading.FailsFirst endpoint now packet .replayed := by
  have hdecode := (inspect_eq_ok_iff.mp hfound).2.2.1
  refine ⟨checks, _, rfl, passes_checks_iff.mpr ⟨envelope, hfound⟩, ?_⟩
  intro hpasses
  exact (exists_suits_iff hdecode).mp hpasses hblocks

/-- An admitted packet has passed the first seven steps. -/
theorem passes_of_admitted (hfound : endpoint.inspect now packet = .ok envelope)
    (hfresh : ¬ endpoint.seen.Blocks now (keyOf envelope)) :
    ∀ step ∈ checks ++ [.replayed], reading.Passes endpoint now packet step := by
  intro step hstep
  rcases List.mem_append.mp hstep with hcheck | hreplayed
  · exact passes_checks_iff.mpr ⟨envelope, hfound⟩ step hcheck
  · cases List.mem_singleton.mp hreplayed
    exact ⟨envelope, (inspect_eq_ok_iff.mp hfound).2.2.1, hfresh⟩

theorem admitted_of_passes
    (h : ∀ step ∈ checks ++ [.replayed], reading.Passes endpoint now packet step) :
    ∃ envelope, endpoint.inspect now packet = .ok envelope ∧
      ¬ endpoint.seen.Blocks now (keyOf envelope) := by
  obtain ⟨envelope, hfound⟩ := passes_checks_iff.mp fun step hstep =>
    h step (List.mem_append_left _ hstep)
  have hdecode := (inspect_eq_ok_iff.mp hfound).2.2.1
  exact ⟨envelope, hfound, (exists_suits_iff hdecode).mp (h .replayed (by simp))⟩

end Reading

/-! ## What becomes of a packet -/

section Outcomes

variable {σ : Type} (reading : Reading σ) (env : Surroundings σ) (slot : Slot σ ControlEndpoint)
  (packet : Bytes)

/-- The packet passes every step, the handler of its kind has been called while a lease was
out, and nothing is counted. -/
structure Handles (s s' : σ) : Prop where
  passes : ∀ step ∈ steps, reading.Passes (slot.get s) (env.now s) packet step
  called : ∃ envelope handler, Envelope.decode? packet = some envelope ∧
    reading.handler? envelope.kind envelope.payload = some handler ∧
    s' = slot.modify finish
      (handler (slot.set ((slot.get s).admitting (env.now s) (keyOf envelope)) s))
  rejects : (slot.get s').rejects = (slot.get s).rejects

/-- The packet fails a step, that step is counted once and no other, and outside the endpoint
nothing has changed.  If the step comes before the look at what was seen, the packet counts as
never seen: whenever it passes these steps later, it is admitted. -/
structure Refuses (reason : RejectReason) (s s' : σ) : Prop where
  failsFirst : reading.FailsFirst (slot.get s) (env.now s) packet reason
  other_reason : reason ≠ .payloadTooLarge
  count : ∀ other, (slot.get s').rejects.count other =
    (slot.get s).rejects.count other + if other = reason then 1 else 0
  effect : ∃ seen, s' = slot.set
    { slot.get s with rejects := (slot.get s).rejects.add reason, seen := seen } s
  unseen : reason ∈ checks → (slot.get s').seen = (slot.get s).seen
  again : reason ∈ checks → ∀ limiter now,
    (∀ step ∈ checks ++ [.replayed],
      reading.Passes { slot.get s with limiter := limiter } now packet step) →
    ({ slot.get s' with limiter := limiter }.accept now packet).1 = Envelope.decode? packet

/-- Every packet is either handled or refused, and leases come back. -/
def Accounts (handlePacket : Bytes → σ → σ) : Prop :=
  ∀ packet s,
    (Handles reading env slot packet s (handlePacket packet s) ∨
      ∃ reason, Refuses reading env slot packet reason s (handlePacket packet s)) ∧
    (slot.get (handlePacket packet s)).limiter = (slot.get s).limiter

end Outcomes

section Handling

variable {σ : Type} {reading : Reading σ} {env : Surroundings σ} {slot : Slot σ ControlEndpoint}
  {packet : Bytes} {reason : RejectReason} {s s' : σ}

theorem Refuses.of_set {seen : ReplayWindow PacketKey}
    (hfirst : reading.FailsFirst (slot.get s) (env.now s) packet reason)
    (hother : reason ≠ .payloadTooLarge) (hseen : reason ∈ checks → seen = (slot.get s).seen)
    (hs' : s' = slot.set
      { slot.get s with rejects := (slot.get s).rejects.add reason, seen := seen } s) :
    Refuses reading env slot packet reason s s' ∧
      (slot.get s').limiter = (slot.get s).limiter := by
  have hendpoint : slot.get s' =
      { slot.get s with rejects := (slot.get s).rejects.add reason, seen := seen } := by
    rw [hs', slot.get_set]
  refine ⟨⟨hfirst, hother, ?_, ⟨seen, hs'⟩, ?_, ?_⟩, ?_⟩
  · intro other
    rw [hendpoint]
    exact RejectTally.count_add _ _ _
  · intro hcheck
    rw [hendpoint]
    exact hseen hcheck
  · intro hcheck limiter now hpasses
    obtain ⟨envelope, hfound, hfresh⟩ := Reading.admitted_of_passes hpasses
    have hsame : ({ slot.get s' with limiter := limiter } : ControlEndpoint).inspect now packet =
        .ok envelope := by
      rw [hendpoint, ← hfound]
      rfl
    rw [accept_of_inspect hsame, (inspect_eq_ok_iff.mp hfound).2.2.1]
    rw [hendpoint, hseen hcheck]
    exact hfresh
  · rw [hendpoint]

theorem Refuses.eq_of_counted {other : RejectReason}
    (h : Refuses reading env slot packet reason s s')
    (hcounted : (slot.get s').rejects.count other ≠ (slot.get s).rejects.count other) :
    other = reason := by
  by_contra hne
  have hcount := h.count other
  rw [if_neg hne] at hcount
  exact hcounted hcount

theorem handle_of_error {process : Envelope → σ → σ}
    (h : (slot.get s).inspect (env.now s) packet = .error reason) :
    handle env slot process packet s = slot.set ((slot.get s).reject reason) s := by
  rw [handle, accept_of_error h]

theorem handle_of_blocked {process : Envelope → σ → σ} {envelope : Envelope}
    (h : (slot.get s).inspect (env.now s) packet = .ok envelope)
    (hblocks : (slot.get s).seen.Blocks (env.now s) (keyOf envelope)) :
    handle env slot process packet s = slot.set
      { slot.get s with
        rejects := (slot.get s).rejects.add .replayed
        seen := ((slot.get s).seen.register (env.now s) (keyOf envelope)).2 } s := by
  have hstale := ReplayWindow.register_fst_eq_false_iff.mpr hblocks
  rw [handle, accept, h]
  dsimp only
  rw [hstale]
  rfl

theorem handle_of_fresh {process : Envelope → σ → σ} {envelope : Envelope}
    (h : (slot.get s).inspect (env.now s) packet = .ok envelope)
    (hfresh : ¬ (slot.get s).seen.Blocks (env.now s) (keyOf envelope)) :
    handle env slot process packet s = slot.modify finish (process envelope
      (slot.set ((slot.get s).admitting (env.now s) (keyOf envelope)) s)) := by
  rw [handle, accept_of_inspect h hfresh]

theorem limiter_finish_admitting (endpoint : ControlEndpoint) (now : Millis) (key : PacketKey) :
    (endpoint.admitting now key).finish.limiter = endpoint.limiter := rfl

theorem finish_reject (endpoint : ControlEndpoint) (now : Millis) (key : PacketKey) :
    slot.modify finish (slot.modify (fun endpoint => endpoint.reject reason)
        (slot.set (endpoint.admitting now key) s)) =
      slot.set { endpoint with
        rejects := endpoint.rejects.add reason
        seen := (endpoint.seen.register now key).2 } s := by
  simp only [Slot.modify, slot.get_set, slot.set_set]
  rfl

/-- What becomes of an admitted envelope. -/
def Reading.read (reading : Reading σ) (slot : Slot σ ControlEndpoint) (envelope : Envelope)
    (s : σ) : σ :=
  if reading.supports envelope.kind then
    match reading.handler? envelope.kind envelope.payload with
    | none => slot.modify (fun endpoint => endpoint.reject .malformedPayload) s
    | some handler => handler s
  else slot.modify (fun endpoint => endpoint.reject .unsupportedType) s

/-- A side reads envelopes as its `Reading` says, and its handlers leave an endpoint alone
whose bound admits any packet at all. -/
structure Reading.Describes (reading : Reading σ) (slot : Slot σ ControlEndpoint)
    (process : Envelope → σ → σ) : Prop where
  read : ∀ envelope s, process envelope s = reading.read slot envelope s
  supported : ∀ kind payload, (reading.handler? kind payload).isSome = true →
    reading.supports kind = true
  spared : ∀ kind payload handler, reading.handler? kind payload = some handler →
    ∀ s, Envelope.headerSize ≤ (slot.get s).config.maxPayload → slot.get (handler s) = slot.get s

/-- An admitted packet whose message the side does not take. -/
theorem Reading.failsFirst_unsupported {endpoint : ControlEndpoint} {now : Millis}
    {envelope : Envelope} (hfound : endpoint.inspect now packet = .ok envelope)
    (hfresh : ¬ endpoint.seen.Blocks now (keyOf envelope))
    (hsupports : reading.supports envelope.kind = false) :
    reading.FailsFirst endpoint now packet .unsupportedType := by
  have hdecode := (inspect_eq_ok_iff.mp hfound).2.2.1
  refine ⟨checks ++ [.replayed], _, rfl, passes_of_admitted hfound hfresh, ?_⟩
  intro hpasses
  have hsuits := (exists_suits_iff hdecode).mp hpasses
  rw [Suits, hsupports] at hsuits
  cases hsuits

/-- An admitted packet whose payload does not decode. -/
theorem Reading.failsFirst_malformed {endpoint : ControlEndpoint} {now : Millis}
    {envelope : Envelope} (hfound : endpoint.inspect now packet = .ok envelope)
    (hfresh : ¬ endpoint.seen.Blocks now (keyOf envelope))
    (hsupports : reading.supports envelope.kind = true)
    (hnone : reading.handler? envelope.kind envelope.payload = none) :
    reading.FailsFirst endpoint now packet .malformedPayload := by
  have hdecode := (inspect_eq_ok_iff.mp hfound).2.2.1
  refine ⟨(checks ++ [.replayed]) ++ [.unsupportedType], _, rfl, ?_, ?_⟩
  · intro step hstep
    rcases List.mem_append.mp hstep with hearlier | hlast
    · exact passes_of_admitted hfound hfresh step hearlier
    · cases List.mem_singleton.mp hlast
      exact ⟨envelope, hdecode, hsupports⟩
  · intro hpasses
    have hsuits := (exists_suits_iff hdecode).mp hpasses
    rw [Suits, hnone] at hsuits
    cases hsuits

/-- A packet that gets to its handler has passed every step. -/
theorem Reading.Describes.passes {process : Envelope → σ → σ} (h : reading.Describes slot process)
    {endpoint : ControlEndpoint} {now : Millis} {envelope : Envelope} {handler : σ → σ}
    (hfound : endpoint.inspect now packet = .ok envelope)
    (hfresh : ¬ endpoint.seen.Blocks now (keyOf envelope))
    (hhandler : reading.handler? envelope.kind envelope.payload = some handler) :
    ∀ step ∈ steps, reading.Passes endpoint now packet step := by
  have hdecode := (inspect_eq_ok_iff.mp hfound).2.2.1
  have hsome : (reading.handler? envelope.kind envelope.payload).isSome = true := by
    rw [hhandler]
    rfl
  intro step hstep
  have hsplit : steps = (checks ++ [.replayed]) ++ [.unsupportedType, .malformedPayload] := rfl
  rw [hsplit, List.mem_append] at hstep
  rcases hstep with hearlier | hlast
  · exact passes_of_admitted hfound hfresh step hearlier
  · rcases List.mem_pair.mp hlast with rfl | rfl
    · exact ⟨envelope, hdecode, h.supported _ _ hsome⟩
    · exact ⟨envelope, hdecode, hsome⟩

/-- A packet that gets to its handler is handled, and its lease comes back. -/
theorem Reading.Describes.handles {process : Envelope → σ → σ} (h : reading.Describes slot process)
    {envelope : Envelope} {handler : σ → σ}
    (hfound : (slot.get s).inspect (env.now s) packet = .ok envelope)
    (hfresh : ¬ (slot.get s).seen.Blocks (env.now s) (keyOf envelope))
    (hhandler : reading.handler? envelope.kind envelope.payload = some handler) :
    Handles reading env slot packet s (handle env slot process packet s) ∧
      (slot.get (handle env slot process packet s)).limiter = (slot.get s).limiter := by
  have hsupports : reading.supports envelope.kind = true :=
    h.supported _ envelope.payload (by rw [hhandler]; rfl)
  obtain ⟨hfits, -, hdecode, -⟩ := inspect_eq_ok_iff.mp hfound
  -- A packet that was short enough shows that the bound is not below a header.
  have hbound : Envelope.headerSize ≤ (slot.get s).config.maxPayload := by
    have hlength := Envelope.length_of_decode? hdecode
    omega
  have hendpoint := h.spared _ _ _ hhandler
    (slot.set ((slot.get s).admitting (env.now s) (keyOf envelope)) s)
  rw [slot.get_set] at hendpoint
  replace hendpoint := hendpoint hbound
  rw [handle_of_fresh hfound hfresh, h.read, Reading.read, if_pos hsupports, hhandler]
  refine ⟨⟨h.passes hfound hfresh hhandler, ⟨envelope, handler, hdecode, hhandler, rfl⟩, ?_⟩, ?_⟩
  · rw [slot.get_modify, hendpoint]
    rfl
  · rw [slot.get_modify, hendpoint, limiter_finish_admitting]

/-- A packet that its side reads as described is accounted for. -/
theorem Reading.Describes.accounts {process : Envelope → σ → σ}
    (h : reading.Describes slot process) (env : Surroundings σ) :
    Accounts reading env slot (handle env slot process) := by
  intro packet s
  cases hfound : (slot.get s).inspect (env.now s) packet with
  | error reason =>
      have hhandled : handle env slot process packet s = slot.set ((slot.get s).reject reason) s :=
        handle_of_error hfound
      obtain ⟨hfirst, hother⟩ : reading.FailsFirst _ _ packet reason ∧ reason ≠ .payloadTooLarge :=
        failsFirst_of_inspect hfound
      obtain ⟨hrefuses, hlimiter⟩ := Refuses.of_set hfirst hother (fun _ => rfl) hhandled
      exact ⟨.inr ⟨reason, hrefuses⟩, hlimiter⟩
  | ok envelope =>
      -- No step from the look at what was seen on is one of the checks.
      have hlate : ∀ reason ∈ [RejectReason.replayed, .unsupportedType, .malformedPayload],
          reason ∉ checks := by decide
      by_cases hblocks : (slot.get s).seen.Blocks (env.now s) (keyOf envelope)
      · have hfirst : reading.FailsFirst (slot.get s) (env.now s) packet .replayed :=
          failsFirst_replayed hfound hblocks
        rw [handle_of_blocked hfound hblocks]
        obtain ⟨hrefuses, hlimiter⟩ := Refuses.of_set hfirst nofun
          (fun hcheck => absurd hcheck (hlate _ (by simp))) rfl
        exact ⟨.inr ⟨_, hrefuses⟩, hlimiter⟩
      by_cases hsupports : reading.supports envelope.kind = true
      · cases hhandler : reading.handler? envelope.kind envelope.payload with
        | none =>
            have hfirst := failsFirst_malformed hfound hblocks hsupports hhandler
            rw [handle_of_fresh hfound hblocks, h.read, Reading.read, if_pos hsupports, hhandler]
            obtain ⟨hrefuses, hlimiter⟩ := Refuses.of_set hfirst nofun
              (fun hcheck => absurd hcheck (hlate _ (by simp))) (finish_reject _ _ _)
            exact ⟨.inr ⟨_, hrefuses⟩, hlimiter⟩
        | some handler =>
            obtain ⟨hhandles, hlimiter⟩ := h.handles hfound hblocks hhandler
            exact ⟨.inl hhandles, hlimiter⟩
      · have hunsupported := Bool.eq_false_iff.mpr hsupports
        have hfirst := failsFirst_unsupported hfound hblocks hunsupported
        rw [handle_of_fresh hfound hblocks, h.read, Reading.read, if_neg hsupports]
        obtain ⟨hrefuses, hlimiter⟩ := Refuses.of_set hfirst nofun
          (fun hcheck => absurd hcheck (hlate _ (by simp))) (finish_reject _ _ _)
        exact ⟨.inr ⟨_, hrefuses⟩, hlimiter⟩

end Handling

end ControlEndpoint

/-! ## The two sides -/

variable {σ : Type}

namespace ProxyPlane

/-- A proxy reads everything but requests. -/
def reading (env : Surroundings σ) (slot : Slot σ ProxyPlane) : ControlEndpoint.Reading σ where
  supports
    | .transferRequest => false
    | .transferResult | .tokenValidation | .backendStatus => true
  handler?
    | .transferRequest, _ => none
    | .transferResult, payload => (TransferResult.decode? payload).map (onResult env slot)
    | .tokenValidation, payload => (ValidationNotice.decode? payload).map (onValidation env slot)
    | .backendStatus, payload => (StatusNotice.decode? payload).map (onStatus env slot)

variable {env : Surroundings σ} {slot : Slot σ ProxyPlane}

theorem endpoint_modify (f : ProxyPlane → ProxyPlane)
    (hf : ∀ plane, (f plane).endpoint = plane.endpoint) (s : σ) :
    (slot.comp endpointSlot).get (slot.modify f s) = (slot.comp endpointSlot).get s := by
  show (slot.get (slot.modify f s)).endpoint = (slot.get s).endpoint
  rw [slot.get_modify, hf]

theorem onResult_spares (h : env.Spares (slot.comp endpointSlot)) (result : TransferResult)
    (s : σ) :
    (slot.comp endpointSlot).get (onResult env slot result s) = (slot.comp endpointSlot).get s :=
  (h.post _ _ _).trans (endpoint_modify _ (fun plane => endpoint_settle plane result) s)

theorem onValidation_spares (h : env.Spares (slot.comp endpointSlot)) (notice : ValidationNotice)
    (s : σ) :
    (slot.comp endpointSlot).get (onValidation env slot notice s) =
      (slot.comp endpointSlot).get s := by
  have hposted := h.post .tokenValidated
    ⟨notice.player, notice.backend, notice.outcome, notice.reason⟩ s
  unfold onValidation
  dsimp only
  split
  · exact hposted
  · split
    · exact hposted
    · rename_i id session _
      have hauthenticated : ∀ s, (slot.comp endpointSlot).get (slot.modify (fun plane =>
          { plane with sessions := plane.sessions.update id fun _ => session }) s) =
          (slot.comp endpointSlot).get s := by
        refine endpoint_modify _ ?_
        intro plane
        rfl
      exact (h.post _ _ _).trans ((hauthenticated _).trans hposted)

theorem onStatus_spares (h : env.Spares (slot.comp endpointSlot)) (notice : StatusNotice) (s : σ) :
    (slot.comp endpointSlot).get (onStatus env slot notice s) = (slot.comp endpointSlot).get s := by
  have hheard : (slot.comp endpointSlot).get (slot.modify (fun plane =>
      plane.hear (env.now s) notice) s) = (slot.comp endpointSlot).get s := by
    refine endpoint_modify _ ?_ s
    intro plane
    rfl
  unfold onStatus
  dsimp only
  split
  · exact hheard
  · exact (h.post _ _ _).trans hheard

theorem dispatch_eq {α : Type} (handler : α → σ → σ) (s : σ) (payload : Option α) :
    dispatch slot handler s payload = match payload.map handler with
      | none =>
          (slot.comp endpointSlot).modify (fun endpoint => endpoint.reject .malformedPayload) s
      | some handler => handler s := by
  cases payload with
  | none => rfl
  | some payload => rfl

theorem reading_describes (h : env.Spares (slot.comp endpointSlot)) :
    (reading env slot).Describes (slot.comp endpointSlot) (process env slot) where
  read envelope s := by
    unfold process ControlEndpoint.Reading.read reading
    cases envelope.kind with
    | transferRequest => rfl
    | transferResult | tokenValidation | backendStatus => exact dispatch_eq _ _ _
  supported kind payload hsome := by
    cases kind with
    | transferRequest => cases hsome
    | transferResult | tokenValidation | backendStatus => rfl
  spared kind payload handler hhandler s _ := by
    cases kind with
    | transferRequest => cases hhandler
    | transferResult =>
        obtain ⟨result, -, rfl⟩ := Option.map_eq_some_iff.mp hhandler
        exact onResult_spares h result s
    | tokenValidation =>
        obtain ⟨notice, -, rfl⟩ := Option.map_eq_some_iff.mp hhandler
        exact onValidation_spares h notice s
    | backendStatus =>
        obtain ⟨notice, -, rfl⟩ := Option.map_eq_some_iff.mp hhandler
        exact onStatus_spares h notice s

end ProxyPlane

/-- The game server leaves a part alone when it sends a player away. -/
def GameServer.Spares {α : Type} (server : GameServer σ) (slot : Slot σ α) : Prop :=
  ∀ player proxy referral s, slot.get (server.redirect player proxy referral s).2 = slot.get s

namespace BackendPlane

/-- A request is carried out and answered. -/
def answer (env : Surroundings σ) (slot : Slot σ BackendPlane) (server : GameServer σ)
    (request : TransferRequest) (s : σ) : σ :=
  (ControlEndpoint.send env (slot.comp endpointSlot) .transferResult
    (transfer slot server request s).1.encode (transfer slot server request s).2).2

/-- A backend reads requests only. -/
def reading (env : Surroundings σ) (slot : Slot σ BackendPlane) (server : GameServer σ) :
    ControlEndpoint.Reading σ where
  supports
    | .transferRequest => true
    | .transferResult | .tokenValidation | .backendStatus => false
  handler?
    | .transferRequest, payload => (TransferRequest.decode? payload).map (answer env slot server)
    | .transferResult, _ | .tokenValidation, _ | .backendStatus, _ => none

variable {env : Surroundings σ} {slot : Slot σ BackendPlane} {server : GameServer σ}

theorem transfer_spares (h : server.Spares (slot.comp endpointSlot)) (request : TransferRequest)
    (s : σ) : (slot.comp endpointSlot).get (transfer slot server request s).2 =
      (slot.comp endpointSlot).get s := by
  have hredirect := h request.player (slot.get s).proxyAddress request.referral s
  unfold transfer
  split
  · rfl
  · split
    · rename_i s' hdone
      rw [hdone] at hredirect
      exact hredirect
    · rename_i completion s' _ hfailed
      rw [hfailed] at hredirect
      exact hredirect

/-- An answer is shorter than any packet, so the bound that admitted the request admits it. -/
theorem answer_spares (henv : env.Spares (slot.comp endpointSlot))
    (hserver : server.Spares (slot.comp endpointSlot)) (request : TransferRequest) (s : σ)
    (hbound : Envelope.headerSize ≤ ((slot.comp endpointSlot).get s).config.maxPayload) :
    (slot.comp endpointSlot).get (answer env slot server request s) =
      (slot.comp endpointSlot).get s := by
  have htransfer := transfer_spares hserver request s
  have hfits : (transfer slot server request s).1.encode.length ≤
      ((slot.comp endpointSlot).get (transfer slot server request s).2).config.maxPayload := by
    rw [TransferResult.length_encode, htransfer]
    exact Nat.le_trans (by decide) hbound
  exact (ControlEndpoint.get_send henv _ hfits).trans htransfer

theorem reading_describes (henv : env.Spares (slot.comp endpointSlot))
    (hserver : server.Spares (slot.comp endpointSlot)) :
    (reading env slot server).Describes (slot.comp endpointSlot) (process env slot server) where
  read envelope s := by
    unfold process ControlEndpoint.Reading.read reading
    cases envelope.kind with
    | transferRequest =>
        dsimp only
        cases TransferRequest.decode? envelope.payload with
        | none => rfl
        | some request => rfl
    | transferResult | tokenValidation | backendStatus => rfl
  supported kind payload hsome := by
    cases kind with
    | transferRequest => rfl
    | transferResult | tokenValidation | backendStatus => cases hsome
  spared kind payload handler hhandler s hbound := by
    cases kind with
    | transferRequest =>
        obtain ⟨request, -, rfl⟩ := Option.map_eq_some_iff.mp hhandler
        exact answer_spares henv hserver request s hbound
    | transferResult | tokenValidation | backendStatus => cases hhandler

end BackendPlane

/-- **Every packet is accounted for.**  As long as observers and the game server do not act on
the endpoint themselves, both sides of the control channel handle a packet that passes every
step and count nothing, and refuse any other packet under the first step that it fails. -/
theorem every_packet_accounted :
    (∀ (σ : Type) (env : Surroundings σ) (slot : Slot σ ProxyPlane),
      env.Spares (slot.comp ProxyPlane.endpointSlot) →
      ControlEndpoint.Accounts (ProxyPlane.reading env slot) env
        (slot.comp ProxyPlane.endpointSlot) (ProxyPlane.handlePacket env slot)) ∧
    ∀ (σ : Type) (env : Surroundings σ) (slot : Slot σ BackendPlane) (server : GameServer σ),
      env.Spares (slot.comp BackendPlane.endpointSlot) →
      server.Spares (slot.comp BackendPlane.endpointSlot) →
      ControlEndpoint.Accounts (BackendPlane.reading env slot server) env
        (slot.comp BackendPlane.endpointSlot) (BackendPlane.handlePacket env slot server) :=
  ⟨fun _ env _ henv => (ProxyPlane.reading_describes henv).accounts env,
    fun _ env _ _ henv hserver => (BackendPlane.reading_describes henv hserver).accounts env⟩

/-- A proxy that may read one packet at a time, and is reading one. -/
def busyProxy : Alone ProxyPlane where
  clock := 0
  part := { endpoint := { ControlEndpoint.new { maxInFlight := 1 } .any 0 with limiter := ⟨1, 1⟩ } }

/-- A backend that has seen no packet. -/
def idleBackend : Alone BackendPlane where
  clock := 0
  part := ⟨.new { sender := "lobby" } .any 0, "lobby", ⟨"localhost", 5520⟩⟩

/-- A game server that nobody is on. -/
def emptyServer {σ : Type} : GameServer σ where
  isConnected := fun _ _ => false
  redirect := fun _ _ _ s => (.done, s)

open ControlEndpoint (Refuses onlineReport) in
/-- The report that a backend is up is refused by a proxy that has its hands full, which can
admit it as soon as they are free; another backend does not take reports at all. -/
theorem accounted_while_busy :
    Alone.env.Spares (Alone.slot.comp ProxyPlane.endpointSlot) ∧
    Alone.env.Spares (Alone.slot.comp BackendPlane.endpointSlot) ∧
    emptyServer.Spares (Alone.slot.comp BackendPlane.endpointSlot) ∧
    Refuses (ProxyPlane.reading Alone.env Alone.slot) Alone.env
      (Alone.slot.comp ProxyPlane.endpointSlot) onlineReport.write .ingressBackpressure busyProxy
      (ProxyPlane.handlePacket Alone.env Alone.slot onlineReport.write busyProxy) ∧
    Refuses (BackendPlane.reading Alone.env Alone.slot emptyServer) Alone.env
      (Alone.slot.comp BackendPlane.endpointSlot) onlineReport.write .unsupportedType idleBackend
      (BackendPlane.handlePacket Alone.env Alone.slot emptyServer onlineReport.write
        idleBackend) := by
  have hproxy := (Alone.quiet.comp ProxyPlane.endpointSlot).spares
  have hbackend := (Alone.quiet.comp BackendPlane.endpointSlot).spares
  have hserver : emptyServer.Spares (Alone.slot.comp BackendPlane.endpointSlot) :=
    fun _ _ _ _ => rfl
  obtain ⟨hproxies, hbackends⟩ := every_packet_accounted
  refine ⟨hproxy, hbackend, hserver, ?_, ?_⟩
  · rcases (hproxies _ _ _ hproxy onlineReport.write busyProxy).1 with hhandles | ⟨reason, hrefuses⟩
    · have hroom : 1 < 1 := hhandles.passes .ingressBackpressure (by decide)
      omega
    · have hreason : RejectReason.ingressBackpressure = reason := hrefuses.eq_of_counted (by decide)
      rwa [hreason]
  · rcases (hbackends _ _ _ _ hbackend hserver onlineReport.write idleBackend).1 with
      hhandles | ⟨reason, hrefuses⟩
    · obtain ⟨envelope, handler, hdecode, hhandler, -⟩ := hhandles.called
      rw [ControlEndpoint.decode?_onlineReport] at hdecode
      cases hdecode
      cases hhandler
    · have hreason : RejectReason.unsupportedType = reason := hrefuses.eq_of_counted (by decide)
      rwa [hreason]

end GameGateway
