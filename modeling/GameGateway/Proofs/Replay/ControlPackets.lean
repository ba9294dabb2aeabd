import GameGateway.Control.ProxyPlane
import GameGateway.Proofs.Quiet
import GameGateway.Proofs.Trace

/-!
# How often a control packet is handled

Two settings decide how often the same packet is handled.  The times in its envelope
and the clock skew say for how long it may be read, and the replay window says for how
long it is remembered.  An endpoint never admits a packet again before the window of
its admission is over; but neither the checks on the configuration nor the default
settings see to it that the packet is too old by then.

So a packet is handled at most once exactly if it can no longer be read when a window
since the first instant in which it can be read is over (`handledOnce_of_lt`,
`not_handledOnce_of_le`).
-/

namespace GameGateway

/-! ## When a packet may be read -/

namespace Envelope

/-- The first instant in which an envelope may be read. -/
def earliest (envelope : Envelope) (skew : Millis) : Millis := envelope.issuedAt.saturatingSub skew

/-- The last instant in which an envelope may be read. -/
def latest (envelope : Envelope) (skew : Millis) : Millis :=
  (envelope.issuedAt.saturatingAdd envelope.ttl).saturatingAdd skew

theorem isTimely_iff {envelope : Envelope} {now skew : Millis} :
    envelope.isTimely now skew = true ↔
      0 < envelope.ttl ∧ envelope.earliest skew ≤ now ∧ now ≤ envelope.latest skew := by
  simp [isTimely, earliest, latest]

end Envelope

namespace ControlEndpoint

/-- A packet passes every check before the last one. -/
theorem inspect_eq_ok_iff {endpoint : ControlEndpoint} {now : Millis} {packet : Bytes}
    {envelope : Envelope} :
    endpoint.inspect now packet = .ok envelope ↔
      packet.length ≤ endpoint.config.maxPayload ∧
      endpoint.limiter.count < endpoint.limiter.limit ∧
      Envelope.decode? packet = some envelope ∧
      endpoint.senders.allows envelope.sender = true ∧
      envelope.isTimely now endpoint.config.maxClockSkew = true ∧
      envelope.payload.length ≤ endpoint.config.maxPayload := by
  unfold inspect
  by_cases hlong : endpoint.config.maxPayload < packet.length
  · simp [hlong]
  by_cases hbusy : endpoint.limiter.limit ≤ endpoint.limiter.count
  · simp [hlong, hbusy]
  rw [if_neg hlong, if_neg hbusy]
  cases hdecode : Envelope.decode? packet with
  | none => simp
  | some found =>
      dsimp only
      constructor
      · intro h
        split at h; · cases h
        split at h; · cases h
        split at h; · cases h
        rename_i hsender htimely hpayload
        cases h
        exact ⟨Nat.not_lt.mp hlong, Nat.not_le.mp hbusy, rfl, by simpa using hsender,
          by simpa using htimely, Nat.not_lt.mp hpayload⟩
      · rintro ⟨-, -, hfound, hsender, htimely, hpayload⟩
        cases hfound
        rw [hsender, htimely, if_neg (by simp), if_neg (by simp), if_neg (Nat.not_lt.mpr hpayload)]

/-- Beside the clock, only rules and leases count before the last check. -/
theorem inspect_congr {endpoint other : ControlEndpoint} (hconfig : other.config = endpoint.config)
    (hsenders : other.senders = endpoint.senders) (hlimiter : other.limiter = endpoint.limiter) :
    other.inspect = endpoint.inspect := by
  funext now packet
  rw [inspect, inspect, hconfig, hsenders, hlimiter]

/-! ## Packets as calls -/

theorem accept_of_error {endpoint : ControlEndpoint} {now : Millis} {packet : Bytes}
    {reason : RejectReason} (h : endpoint.inspect now packet = .error reason) :
    endpoint.accept now packet = (none, endpoint.reject reason) := by
  rw [accept, h]

theorem accept_fst_of_ok {endpoint : ControlEndpoint} {now : Millis} {packet : Bytes}
    {envelope : Envelope} (h : endpoint.inspect now packet = .ok envelope) :
    (endpoint.accept now packet).1 =
      if (endpoint.seen.register now (keyOf envelope)).1 then some envelope else none := by
  rw [accept, h]
  dsimp only
  split
  · rfl
  · rfl

theorem seen_accept_of_ok {endpoint : ControlEndpoint} {now : Millis} {packet : Bytes}
    {envelope : Envelope} (h : endpoint.inspect now packet = .ok envelope) :
    (endpoint.accept now packet).2.seen = (endpoint.seen.register now (keyOf envelope)).2 := by
  rw [accept, h]
  dsimp only
  split
  · rfl
  · rfl

/-- A packet changes nothing but what was seen and counted, and a lease is out exactly if it is
admitted. -/
theorem accept_snd (endpoint : ControlEndpoint) (now : Millis) (packet : Bytes) :
    (endpoint.accept now packet).2 = { endpoint with
      seen := (endpoint.accept now packet).2.seen
      rejects := (endpoint.accept now packet).2.rejects
      limiter := { endpoint.limiter with
        count := endpoint.limiter.count +
          if (endpoint.accept now packet).1.isSome then 1 else 0 } } := by
  unfold accept
  split
  · rfl
  · dsimp only
    split
    · rfl
    · rfl

@[simp] theorem config_accept (endpoint : ControlEndpoint) (now : Millis) (packet : Bytes) :
    (endpoint.accept now packet).2.config = endpoint.config := by
  rw [accept_snd]

@[simp] theorem senders_accept (endpoint : ControlEndpoint) (now : Millis) (packet : Bytes) :
    (endpoint.accept now packet).2.senders = endpoint.senders := by
  rw [accept_snd]

theorem limiter_accept (endpoint : ControlEndpoint) (now : Millis) (packet : Bytes) :
    (endpoint.accept now packet).2.limiter = { endpoint.limiter with
      count := endpoint.limiter.count +
        if (endpoint.accept now packet).1.isSome then 1 else 0 } := by
  rw [accept_snd]

/-- A packet as it is noted down: what the endpoint makes of it before it looks whether it
was seen, and what is handed on. -/
structure Delivery where
  time : Millis
  packet : Bytes
  found : Except RejectReason Envelope
  admitted : Option Envelope

namespace Delivery

/-- The packet is admitted. -/
def Admits (packet : Bytes) (d : Delivery) : Prop := d.packet = packet ∧ d.admitted ≠ none

/-- The key that a packet presents, with the answer to it. -/
def answered (d : Delivery) : Option (ReplayWindow.Answered PacketKey) :=
  match d.found with
  | .error _ => none
  | .ok envelope => some ⟨⟨d.time, keyOf envelope⟩, d.admitted.isSome⟩

theorem time_of_answered (d : Delivery) (a : ReplayWindow.Answered PacketKey)
    (h : d.answered = some a) : a.time = d.time := by
  unfold answered at h
  split at h
  · cases h
  · cases h
    rfl

theorem answered_of_admits {d : Delivery} {packet : Bytes} {envelope : Envelope}
    (h : d.Admits packet) (hfound : d.found = .ok envelope) :
    d.answered = some ⟨⟨d.time, keyOf envelope⟩, true⟩ := by
  have hadmitted : d.admitted.isSome = true := Option.isSome_iff_ne_none.mpr h.2
  rw [answered, hfound]
  dsimp only
  rw [hadmitted]

end Delivery

/-- Both endpoints admit by the same rules and have seen the same packets. -/
structure SameSeen (endpoint other : ControlEndpoint) : Prop where
  config : other.config = endpoint.config
  seen : other.seen = endpoint.seen

theorem SameSeen.refl (endpoint : ControlEndpoint) : SameSeen endpoint endpoint := ⟨rfl, rfl⟩

variable {σ : Type} {env : Surroundings σ} {slot : Slot σ ControlEndpoint}
  {process : Envelope → σ → σ}

/-- The packets that come in at an endpoint as calls on it. -/
def deliveries (env : Surroundings σ) (slot : Slot σ ControlEndpoint)
    (process : Envelope → σ → σ) : Operation σ Bytes Delivery where
  now := env.now
  Untouched := fun s s' => SameSeen (slot.get s) (slot.get s')
  visit := fun packet s => slot.set ((slot.get s).accept (env.now s) packet).2 s
  finish := fun packet s => handle env slot process packet s
  record := fun packet s =>
    ⟨env.now s, packet, (slot.get s).inspect (env.now s) packet,
      ((slot.get s).accept (env.now s) packet).1⟩

theorem presents (packet : Bytes) (s : σ) :
    Trace.Presents (fun s => (slot.get s).seen) (deliveries env slot process) Delivery.answered
      packet s := by
  cases hfound : (slot.get s).inspect (env.now s) packet with
  | error reason =>
      left
      constructor
      · simp only [deliveries, Delivery.answered, hfound]
      · simp only [deliveries, slot.get_set, accept_of_error hfound]
        rfl
  | ok envelope =>
      right
      refine ⟨keyOf envelope, ?_, ?_⟩
      · have hadmitted : ((slot.get s).accept (env.now s) packet).1.isSome =
            ((slot.get s).seen.register (env.now s) (keyOf envelope)).1 := by
          rw [accept_fst_of_ok hfound]
          split
          · rename_i hfresh
            rw [hfresh]
            rfl
          · rename_i hstale
            rw [Bool.eq_false_iff.mpr hstale]
            rfl
        simp only [deliveries, Delivery.answered, hfound, hadmitted]
      · simp only [deliveries, slot.get_set, seen_accept_of_ok hfound]

/-- Packets act on the keys that the endpoint has seen. -/
theorem deliveries_watch (env : Surroundings σ) (slot : Slot σ ControlEndpoint)
    (process : Envelope → σ → σ) :
    Trace.Watches (deliveries env slot process) (fun _ => True) (fun s => (slot.get s).seen)
      Delivery.time Delivery.answered where
  untouched _ _ hsame _ := ⟨trivial, hsame.seen⟩
  visit _ _ _ := trivial
  presents packet s _ := presents packet s
  time_record _ _ := rfl
  time_answered := Delivery.time_of_answered

/-- A packet that is admitted has passed every other check. -/
theorem found_of_admits {packet input : Bytes} {s : σ}
    (h : ((deliveries env slot process).record input s).Admits packet) :
    ∃ envelope, (slot.get s).inspect (env.now s) packet = .ok envelope ∧
      ((deliveries env slot process).record input s).found = .ok envelope := by
  obtain ⟨hsame, hadmitted⟩ := h
  have hinput : input = packet := hsame
  subst hinput
  cases hfound : (slot.get s).inspect (env.now s) input with
  | error reason =>
      have hnone : ((slot.get s).accept (env.now s) input).1 = none := by
        rw [accept_of_error hfound]
      exact absurd hnone hadmitted
  | ok envelope => exact ⟨envelope, rfl, hfound⟩

/-! ## How often a packet is handled -/

/-- The keys that packets present. -/
def keys (calls : List Delivery) : Finset PacketKey :=
  ((calls.filterMap Delivery.answered).map fun a => a.key).toFinset

/-- What an admitted packet is: an envelope that may be read. -/
theorem found_timely {config : ControlConfig} {s s' : σ} {calls : List Delivery}
    (htrace : Trace (deliveries env slot process) s calls s')
    (hconfig : (slot.get s).config = config) (packet : Bytes) :
    ∀ d ∈ calls, d.Admits packet → ∃ envelope, Envelope.decode? packet = some envelope ∧
      d.found = .ok envelope ∧ envelope.isTimely d.time config.maxClockSkew = true := by
  refine htrace.forall_record (P := fun s => (slot.get s).config = config)
    (fun s s' hsame hs => hsame.config.trans hs) (fun input s hs => ?_) (fun input s hs h => ?_)
    hconfig
  · simp only [deliveries, slot.get_set, config_accept]
    exact hs
  · obtain ⟨envelope, hinspect, hfound⟩ := found_of_admits h
    obtain ⟨-, -, hdecode, -, htimely, -⟩ := inspect_eq_ok_iff.mp hinspect
    exact ⟨envelope, hdecode, hfound, hs ▸ htimely⟩

/-- A packet is not admitted again before the window of its admission is over. -/
theorem admitted_apart {config : ControlConfig} {senders : SenderPolicy} {opened : Millis}
    (hwindow : 0 < config.replayWindow) {s s' : σ} {calls : List Delivery}
    (hnew : slot.get s = new config senders opened)
    (htrace : Trace (deliveries env slot process) s calls s')
    (hfew : (keys calls).card ≤ max 1 config.replayMaxEntries) (packet : Bytes) :
    calls.Pairwise fun c d => c.Admits packet → d.Admits packet →
      c.time.saturatingAdd config.replayWindow ≤ d.time := by
  have hconfig : (slot.get s).config = config := by
    rw [hnew]
    rfl
  have hseen : (slot.get s).seen = .new ⟨config.replayWindow, config.replayMaxEntries⟩ opened := by
    rw [hnew]
    rfl
  have hspan := ReplayConfig.window_validated_of_pos hwindow config.replayMaxEntries
  have hcount : (keys calls).card ≤
      (ReplayConfig.mk config.replayWindow config.replayMaxEntries).validated.maxEntries := hfew
  have hfound := found_timely htrace hconfig packet
  have happart := htrace.accepted_apart (deliveries_watch env slot process) trivial hseen hcount
  rw [hspan] at happart
  refine happart.imp_of_mem fun {c d} hc hd hapart hfirst hsecond => ?_
  obtain ⟨envelope, hdecode, hfoundc, -⟩ := hfound c hc hfirst
  obtain ⟨other, hdecode', hfoundd, -⟩ := hfound d hd hsecond
  -- The same bytes decode to the same envelope, so they present the same key.
  rw [hdecode] at hdecode'
  cases hdecode'
  exact hapart _ (Delivery.answered_of_admits hfirst hfoundc) _
    (Delivery.answered_of_admits hsecond hfoundd) rfl rfl rfl

/-- Whatever happens to a new endpoint, as long as it sees no more than `count` keys it hands
the packet on at most once. -/
def HandledOnce (config : ControlConfig) (senders : SenderPolicy) (count : Nat)
    (packet : Bytes) : Prop :=
  ∀ (σ : Type) (env : Surroundings σ) (slot : Slot σ ControlEndpoint)
    (process : Envelope → σ → σ) (opened : Millis) (s s' : σ) (calls : List Delivery),
    slot.get s = new config senders opened → Trace (deliveries env slot process) s calls s' →
    (keys calls).card ≤ count →
    calls.Pairwise fun c d => ¬ (c.Admits packet ∧ d.Admits packet)

theorem replayWindow_pos {config : ControlConfig} (h : config.problems = []) :
    0 < config.replayWindow := by
  simp only [ControlConfig.problems, List.append_eq_nil_iff, Config.sentenceIf_eq_nil_iff] at h
  obtain ⟨⟨⟨-, hwindow⟩, -⟩, -⟩ := h
  simpa using hwindow

/-- A packet is handled at most once if it cannot be read any more when a window since it
could be read first is over, as long as the endpoint sees no more keys than it can remember. -/
theorem handledOnce_of_lt {config : ControlConfig} (hproblems : config.problems = [])
    (senders : SenderPolicy) {packet : Bytes} (hshort : ∀ envelope,
      Envelope.decode? packet = some envelope → envelope.latest config.maxClockSkew <
        (envelope.earliest config.maxClockSkew).saturatingAdd config.replayWindow) :
    HandledOnce config senders (max 1 config.replayMaxEntries) packet := by
  intro σ env slot process opened s s' calls hnew htrace hfew
  have hconfig : (slot.get s).config = config := by
    rw [hnew]
    rfl
  have hfound := found_timely htrace hconfig packet
  refine (admitted_apart (replayWindow_pos hproblems) hnew htrace hfew packet).imp_of_mem
    fun {c d} hc hd hapart hboth => ?_
  obtain ⟨envelope, hdecode, -, htimely⟩ := hfound c hc hboth.1
  obtain ⟨other, hdecode', -, htimely'⟩ := hfound d hd hboth.2
  rw [hdecode] at hdecode'
  cases hdecode'
  obtain ⟨-, hearly, -⟩ := Envelope.isTimely_iff.mp htimely
  obtain ⟨-, -, hlate⟩ := Envelope.isTimely_iff.mp htimely'
  have hover : (envelope.earliest config.maxClockSkew).saturatingAdd config.replayWindow ≤
      envelope.latest config.maxClockSkew :=
    Int64.le_trans (Millis.saturatingAdd_mono hearly (Int64.le_refl _))
      (Int64.le_trans (hapart hboth.1 hboth.2) hlate)
  exact Int64.not_lt.mpr hover (hshort envelope hdecode)

end ControlEndpoint

/-! ## A proxy in quiet surroundings -/

namespace ProxyPlane

variable {σ : Type} {env : Surroundings σ} {slot : Slot σ ProxyPlane}

/-- Between two states the clock stands still and the endpoint has at most counted
rejected packets. -/
structure Steady (env : Surroundings σ) (slot : Slot σ ProxyPlane) (s s' : σ) : Prop where
  endpoint : ∃ tally, (slot.get s').endpoint = { (slot.get s).endpoint with rejects := tally }
  now : env.now s' = env.now s

namespace Steady

theorem of_same {s s' : σ} (hget : (slot.get s').endpoint = (slot.get s).endpoint)
    (hnow : env.now s' = env.now s) : Steady env slot s s' where
  endpoint := ⟨(slot.get s).endpoint.rejects, hget⟩
  now := hnow

theorem refl (s : σ) : Steady env slot s s := of_same rfl rfl

theorem trans {s s' s'' : σ} (h : Steady env slot s s') (h' : Steady env slot s' s'') :
    Steady env slot s s'' where
  endpoint := by
    obtain ⟨tally, hfirst⟩ := h.endpoint
    obtain ⟨tally', hsecond⟩ := h'.endpoint
    exact ⟨tally', by rw [hsecond, hfirst]⟩
  now := h'.now.trans h.now

theorem post (h : env.Quiet slot) (kind : EventKind) (event : Event kind) (s : σ) :
    Steady env slot s (env.post kind event s).2 :=
  of_same (congrArg ProxyPlane.endpoint (h.post kind event s).1) (h.post kind event s).2

theorem modify (h : env.Quiet slot) {f : ProxyPlane → ProxyPlane}
    (hf : ∀ plane, (f plane).endpoint = plane.endpoint) (s : σ) :
    Steady env slot s (slot.modify f s) :=
  of_same (by rw [Slot.get_modify, hf]) (h.now_modify f s)

theorem reject (h : env.Quiet slot) (reason : RejectReason) (s : σ) :
    Steady env slot s (ProxyPlane.reject slot reason s) where
  endpoint := by
    refine ⟨(slot.get s).endpoint.rejects.add reason, ?_⟩
    rw [ProxyPlane.reject, Slot.modify, Slot.comp, slot.get_set]
    rfl
  now := (h.comp endpointSlot).now_modify _ s

end Steady

theorem endpoint_settle (plane : ProxyPlane) (result : TransferResult) :
    (plane.settle result).endpoint = plane.endpoint := by
  unfold settle
  dsimp only
  split
  · rfl
  · split
    · unfold restore
      split
      · rfl
      · rfl
    · rfl

theorem onResult_steady (h : env.Quiet slot) (result : TransferResult) (s : σ) :
    Steady env slot s (onResult env slot result s) :=
  (Steady.modify h (fun plane => endpoint_settle plane result) s).trans (Steady.post h _ _ _)

theorem onValidation_steady (h : env.Quiet slot) (notice : ValidationNotice) (s : σ) :
    Steady env slot s (onValidation env slot notice s) := by
  refine (Steady.post h .tokenValidated
    ⟨notice.player, notice.backend, notice.outcome, notice.reason⟩ s).trans ?_
  unfold onValidation
  dsimp only
  split
  · exact Steady.refl _
  · split
    · exact Steady.refl _
    · exact (Steady.modify h (by intro plane; rfl) _).trans (Steady.post h _ _ _)

theorem onStatus_steady (h : env.Quiet slot) (notice : StatusNotice) (s : σ) :
    Steady env slot s (onStatus env slot notice s) := by
  have hheard := Steady.modify h (f := fun plane => plane.hear (env.now s) notice)
    (fun plane => rfl) s
  unfold onStatus
  dsimp only
  split
  · exact hheard
  · exact hheard.trans (Steady.post h _ _ _)

theorem dispatch_steady {α : Type} (h : env.Quiet slot) {handler : α → σ → σ}
    (hhandler : ∀ payload s, Steady env slot s (handler payload s)) (s : σ) (payload : Option α) :
    Steady env slot s (dispatch slot handler s payload) := by
  cases payload with
  | none => exact Steady.reject h _ s
  | some payload => exact hhandler payload s

/-- Reading an envelope leaves the endpoint alone. -/
theorem process_steady (h : env.Quiet slot) (envelope : Envelope) (s : σ) :
    Steady env slot s (process env slot envelope s) := by
  unfold process
  split
  · exact dispatch_steady h (onResult_steady h) s _
  · exact dispatch_steady h (onValidation_steady h) s _
  · exact dispatch_steady h (onStatus_steady h) s _
  · exact Steady.reject h _ s

/-- What handling a packet leaves of an endpoint: the rules, the leases and what was seen. -/
structure Handled (endpoint other : ControlEndpoint) (now : Millis) (packet : Bytes) : Prop where
  config : other.config = endpoint.config
  senders : other.senders = endpoint.senders
  limiter : other.limiter = endpoint.limiter
  seen : other.seen = (endpoint.accept now packet).2.seen

theorem handlePacket_quiet (h : env.Quiet slot) (packet : Bytes) (s : σ) :
    Handled (slot.get s).endpoint (slot.get (handlePacket env slot packet s)).endpoint (env.now s)
        packet ∧
      env.now (handlePacket env slot packet s) = env.now s := by
  have hconfig := (slot.get s).endpoint.config_accept (env.now s) packet
  have hsenders := (slot.get s).endpoint.senders_accept (env.now s) packet
  have hlimiter := (slot.get s).endpoint.limiter_accept (env.now s) packet
  have hvisited : (slot.get ((slot.comp endpointSlot).set
      ((slot.get s).endpoint.accept (env.now s) packet).2 s)).endpoint =
        ((slot.get s).endpoint.accept (env.now s) packet).2 := (slot.comp endpointSlot).get_set _ s
  have hnow := (h.comp endpointSlot).now_set ((slot.get s).endpoint.accept (env.now s) packet).2 s
  unfold handlePacket ControlEndpoint.handle
  simp only [show (slot.comp endpointSlot).get s = (slot.get s).endpoint from rfl]
  cases hadmitted : ((slot.get s).endpoint.accept (env.now s) packet).1 with
  | none =>
      rw [hadmitted] at hlimiter
      simp only [hvisited]
      exact ⟨⟨hconfig, hsenders, hlimiter, rfl⟩, hnow⟩
  | some envelope =>
      rw [hadmitted] at hlimiter
      generalize (slot.comp endpointSlot).set
        ((slot.get s).endpoint.accept (env.now s) packet).2 s = visited at hvisited hnow
      obtain ⟨⟨tally, hendpoint⟩, hclock⟩ := process_steady h envelope visited
      have hfinish : (slot.get ((slot.comp endpointSlot).modify ControlEndpoint.finish
          (process env slot envelope visited))).endpoint =
            (slot.get (process env slot envelope visited)).endpoint.finish :=
        (slot.comp endpointSlot).get_modify _ _
      dsimp only
      rw [hfinish, hendpoint, hvisited]
      refine ⟨⟨hconfig, hsenders, ?_, rfl⟩, ?_⟩
      · rw [ControlEndpoint.finish, hlimiter]
        rfl
      · exact ((h.comp endpointSlot).now_modify _ _).trans (hclock.trans hnow)

open ControlEndpoint (deliveries Delivery SameSeen keys HandledOnce keyOf)

/-- In quiet surroundings a packet is a trace of one call. -/
theorem handlePacket_trace (h : env.Quiet slot) (packet : Bytes) (s : σ) :
    Trace (deliveries env (slot.comp endpointSlot) (process env slot)) s
      [(deliveries env (slot.comp endpointSlot) (process env slot)).record packet s]
      (handlePacket env slot packet s) := by
  obtain ⟨hhandled, hclock⟩ := handlePacket_quiet h packet s
  have hvisit := (h.comp endpointSlot).now_set ((slot.get s).endpoint.accept (env.now s) packet).2 s
  have hvisited : (slot.comp endpointSlot).get ((slot.comp endpointSlot).set
      ((slot.get s).endpoint.accept (env.now s) packet).2 s) =
        ((slot.get s).endpoint.accept (env.now s) packet).2 := (slot.comp endpointSlot).get_set _ s
  have hsame : SameSeen
      ((slot.comp endpointSlot).get ((slot.comp endpointSlot).set
        ((slot.get s).endpoint.accept (env.now s) packet).2 s))
      ((slot.comp endpointSlot).get (handlePacket env slot packet s)) := by
    rw [hvisited]
    exact ⟨hhandled.config.trans (ControlEndpoint.config_accept _ _ _).symm, hhandled.seen⟩
  exact .call packet (Int64.le_of_eq hvisit.symm)
    (.elsewhere hsame (Int64.le_of_eq (hvisit.trans hclock.symm)) (.done _)) (.done _)

/-- A packet that passes every other check is handled if its key is new. -/
theorem admits_of_fresh {packet : Bytes} {envelope : Envelope} {s : σ}
    (hfound : (slot.get s).endpoint.inspect (env.now s) packet = .ok envelope)
    (hfresh : ((slot.get s).endpoint.seen.register (env.now s) (keyOf envelope)).1 = true) :
    ((deliveries env (slot.comp endpointSlot) (process env slot)).record packet s).Admits
      packet := by
  have hadmitted : ((slot.get s).endpoint.accept (env.now s) packet).1 = some envelope := by
    rw [ControlEndpoint.accept_fst_of_ok hfound, hfresh]
    rfl
  refine ⟨rfl, fun hnone => ?_⟩
  have hcontra := hadmitted.symm.trans hnone
  cases hcontra

/-- In quiet surroundings a packet is handled twice if its key is new both times. -/
theorem trace_twice (h : env.Quiet slot) (first second : σ) {packet : Bytes} {envelope : Envelope}
    (hsame : slot.get second = slot.get (handlePacket env slot packet first))
    (hclock : env.now first ≤ env.now second)
    (hfound : (slot.get first).endpoint.inspect (env.now first) packet = .ok envelope)
    (hfresh : ((slot.get first).endpoint.seen.register (env.now first) (keyOf envelope)).1 = true)
    (hfound' : (slot.get first).endpoint.inspect (env.now second) packet = .ok envelope)
    (hfresh' : (((slot.get first).endpoint.seen.register (env.now first)
      (keyOf envelope)).2.register (env.now second) (keyOf envelope)).1 = true) :
    ∃ c d s', Trace (deliveries env (slot.comp endpointSlot) (process env slot)) first [c, d] s' ∧
      c.Admits packet ∧ d.Admits packet ∧ keys [c, d] = {keyOf envelope} := by
  obtain ⟨hhandled, hnow⟩ := handlePacket_quiet h packet first
  have hseen : (slot.get second).endpoint.seen =
      ((slot.get first).endpoint.seen.register (env.now first) (keyOf envelope)).2 := by
    rw [hsame, hhandled.seen, ControlEndpoint.seen_accept_of_ok hfound]
  have hinspect : (slot.get second).endpoint.inspect (env.now second) packet = .ok envelope := by
    rw [hsame, ControlEndpoint.inspect_congr hhandled.config hhandled.senders hhandled.limiter]
    exact hfound'
  have hfirst : ((deliveries env (slot.comp endpointSlot) (process env slot)).record packet
      first).Admits packet := admits_of_fresh hfound hfresh
  have hsecond : ((deliveries env (slot.comp endpointSlot) (process env slot)).record packet
      second).Admits packet := admits_of_fresh hinspect (hseen ▸ hfresh')
  have hrest : Trace (deliveries env (slot.comp endpointSlot) (process env slot))
      (handlePacket env slot packet first)
      [(deliveries env (slot.comp endpointSlot) (process env slot)).record packet second]
      (handlePacket env slot packet second) := by
    have huntouched : SameSeen (slot.get (handlePacket env slot packet first)).endpoint
        (slot.get second).endpoint := hsame ▸ SameSeen.refl _
    exact .elsewhere huntouched (Int64.le_trans (Int64.le_of_eq hnow) hclock)
      (handlePacket_trace h packet second)
  refine ⟨_, _, _, (handlePacket_trace h packet first).append hrest, hfirst, hsecond, ?_⟩
  simp [keys, Delivery.answered_of_admits hfirst hfound,
    Delivery.answered_of_admits hsecond hinspect]

end ProxyPlane

namespace ControlEndpoint

/-- A proxy that admits a packet at all admits it in the first instant in which it can be
read and again in the last one, if the window of the first admission is over by then. -/
theorem not_handledOnce_of_le {config : ControlConfig} (hproblems : config.problems = [])
    {senders : SenderPolicy} {packet : Bytes} {envelope : Envelope} {now : Millis} {count : Nat}
    (hcount : 0 < count) (hfound : (new config senders 0).inspect now packet = .ok envelope)
    (hlong : (envelope.earliest config.maxClockSkew).saturatingAdd config.replayWindow ≤
      envelope.latest config.maxClockSkew) : ¬ HandledOnce config senders count packet := by
  intro honce
  obtain ⟨hlength, hroom, hdecode, hallowed, htimely, hpayload⟩ := inspect_eq_ok_iff.mp hfound
  obtain ⟨httl, hearly, hlate⟩ := Envelope.isTimely_iff.mp htimely
  have horder : envelope.earliest config.maxClockSkew ≤ envelope.latest config.maxClockSkew :=
    Int64.le_trans hearly hlate
  have hinspect : ∀ instant, envelope.earliest config.maxClockSkew ≤ instant →
      instant ≤ envelope.latest config.maxClockSkew →
        (new config senders 0).inspect instant packet = .ok envelope := fun instant hfrom huntil =>
    inspect_eq_ok_iff.mpr ⟨hlength, hroom, hdecode, hallowed,
      Envelope.isTimely_iff.mpr ⟨httl, hfrom, huntil⟩, hpayload⟩
  have hspan := ReplayConfig.window_validated_of_pos (replayWindow_pos hproblems)
    config.replayMaxEntries
  obtain ⟨hfresh, hagain⟩ := ReplayWindow.accepted_twice
    ⟨config.replayWindow, config.replayMaxEntries⟩ (envelope.earliest config.maxClockSkew)
    (keyOf envelope) horder (by rw [hspan]; exact hlong)
  let first : Alone ProxyPlane := ⟨envelope.earliest config.maxClockSkew,
    { endpoint := new config senders (envelope.earliest config.maxClockSkew) }⟩
  let later : Alone ProxyPlane := ProxyPlane.handlePacket Alone.env Alone.slot packet first
  obtain ⟨c, d, s', htrace, hc, hd, hkeys⟩ := ProxyPlane.trace_twice Alone.quiet first
    { later with clock := envelope.latest config.maxClockSkew } rfl horder
    (hinspect _ (Int64.le_refl _) horder) hfresh (hinspect _ horder (Int64.le_refl _)) hagain
  have hpairs := honce _ _ _ _ _ _ _ _ rfl htrace (by rw [hkeys]; exact hcount)
  exact (List.pairwise_cons.mp hpairs).1 d (List.mem_singleton_self d) ⟨hc, hd⟩

/-- **How often a packet is handled.**  Whatever happens to an endpoint that sees no more keys
than it can remember, it does not admit a packet again before the window of its admission is
over.  It handles the packet at most once if the packet cannot be read any more when a window
since it could be read first is over.  A packet that an endpoint admits at all can be handled
twice otherwise, even if no other packet is ever seen. -/
theorem handledOnce_exact {config : ControlConfig} (hproblems : config.problems = [])
    (senders : SenderPolicy) (packet : Bytes) :
    (∀ (σ : Type) (env : Surroundings σ) (slot : Slot σ ControlEndpoint)
      (process : Envelope → σ → σ) (opened : Millis) (s s' : σ) (calls : List Delivery),
      slot.get s = new config senders opened → Trace (deliveries env slot process) s calls s' →
      (keys calls).card ≤ max 1 config.replayMaxEntries →
      calls.Pairwise fun c d => c.Admits packet → d.Admits packet →
        c.time.saturatingAdd config.replayWindow ≤ d.time) ∧
    ((∀ envelope, Envelope.decode? packet = some envelope → envelope.latest config.maxClockSkew <
        (envelope.earliest config.maxClockSkew).saturatingAdd config.replayWindow) →
      HandledOnce config senders (max 1 config.replayMaxEntries) packet) ∧
    ∀ envelope now count, (new config senders 0).inspect now packet = .ok envelope → 0 < count →
      HandledOnce config senders count packet → envelope.latest config.maxClockSkew <
        (envelope.earliest config.maxClockSkew).saturatingAdd config.replayWindow := by
  refine ⟨fun σ env slot process opened s s' calls hnew htrace hfew => ?_,
    handledOnce_of_lt hproblems senders, fun envelope now count hfound hcount honce => ?_⟩
  · exact admitted_apart (replayWindow_pos hproblems) hnew htrace hfew packet
  · by_contra hlong
    exact not_handledOnce_of_le hproblems hcount hfound (Int64.not_lt.mp hlong) honce

/-- The report of a backend that it is up, as sent at the epoch with the default settings. -/
def onlineReport : Envelope where
  kind := .backendStatus
  sender := "lobby"
  issuedAt := 0
  ttl := 10000
  nonce := Alone.fresh
  payload := StatusNotice.write ⟨"lobby", .online⟩

theorem decode?_onlineReport : Envelope.decode? onlineReport.write = some onlineReport := by decide

/-- A window of a millisecond more than the report can be read is long enough. -/
theorem handledOnce_with_long_window :
    ({ replayWindow := 130001 } : ControlConfig).problems = [] ∧
      HandledOnce { replayWindow := 130001 } .any 100000 onlineReport.write := by
  have hproblems : ({ replayWindow := 130001 } : ControlConfig).problems = [] := by decide
  refine ⟨hproblems, (handledOnce_exact hproblems .any onlineReport.write).2.1 ?_⟩
  intro envelope hdecode
  rw [decode?_onlineReport] at hdecode
  cases hdecode
  decide

/-- With the default settings the report is handled twice. -/
theorem handled_twice_by_default :
    ¬ ∀ (config : ControlConfig) (senders : SenderPolicy) (packet : Bytes),
      config.problems = [] →
        HandledOnce config senders (config.replayMaxEntries - 1) packet := by
  intro h
  have hproblems : ({} : ControlConfig).problems = [] := by decide
  have hfound : (new {} .any 0).inspect 0 onlineReport.write = .ok onlineReport :=
    inspect_eq_ok_iff.mpr ⟨by decide, by decide, decode?_onlineReport, rfl, by decide, by decide⟩
  exact not_handledOnce_of_le hproblems (by decide) hfound (by decide)
    (h {} .any onlineReport.write hproblems)

end ControlEndpoint

end GameGateway
