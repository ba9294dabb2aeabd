import GameGateway.Proofs.Replay.ControlPackets
import GameGateway.Proofs.Wire.Envelope

/-!
# Sent packets at the other end

Both ends of the control channel go by the same bound on lengths, but they do not
measure the same thing: the sender measures the payload, and the receiver measures the
packet in which the payload travels.  Of the other rules a sent packet breaks none at a
receiver that reads the same clock and expects the sender.

So a sent packet is admitted exactly if the header, the id of the sender and the payload
fit the bound together (`accept_sent`).  Payloads that fit alone but not with the rest are
sent without an error and turned away (`sent_but_turned_away`).
-/

namespace GameGateway

namespace Envelope

/-- An envelope may be read in the instant of its issue, however far clocks may differ. -/
theorem isTimely_issuedAt {envelope : Envelope} {skew : Millis} (httl : 0 < envelope.ttl)
    (hskew : 0 ≤ skew) : envelope.isTimely envelope.issuedAt skew = true := by
  refine isTimely_iff.mpr ⟨httl, Millis.saturatingSub_le _ hskew, ?_⟩
  have hissued : envelope.issuedAt ≤ envelope.issuedAt.saturatingAdd envelope.ttl :=
    Millis.le_saturatingAdd _ (Int64.le_of_lt httl)
  exact Int64.le_trans hissued (Millis.le_saturatingAdd _ hskew)

end Envelope

namespace ControlEndpoint

/-! ## Sending -/

section Sending

variable {σ : Type} {env : Surroundings σ} {slot : Slot σ ControlEndpoint} {kind : MessageKind}
  {payload : Bytes} {s : σ}

/-- The envelope in which a message travels if it is sent now. -/
def outgoing (env : Surroundings σ) (slot : Slot σ ControlEndpoint) (kind : MessageKind)
    (payload : Bytes) (s : σ) : Envelope :=
  (slot.get s).compose (env.now (env.draw s).2) (env.draw s).1 kind payload

/-- A message that is sent has travelled in its envelope. -/
theorem send_of_ok (h : (send env slot kind payload s).1 = .ok ()) :
    (outgoing env slot kind payload s).encode = .ok (outgoing env slot kind payload s).write ∧
      send env slot kind payload s = (.ok (), (env.send controlChannel
        (outgoing env slot kind payload s).write (env.draw s).2).2) := by
  unfold send at h ⊢
  dsimp only at h ⊢
  split at h
  · cases h
  · rename_i hfits
    rw [if_neg hfits]
    split at h
    · cases h
    · rename_i packet hencode
      obtain ⟨-, -, -, rfl⟩ := Envelope.encode_eq_ok_iff.mp hencode
      exact ⟨hencode, Prod.ext h rfl⟩

theorem length_write_outgoing (env : Surroundings σ) (slot : Slot σ ControlEndpoint)
    (kind : MessageKind) (payload : Bytes) (s : σ) :
    (outgoing env slot kind payload s).write.length =
      Envelope.headerSize + Utf8.size (slot.get s).config.sender + payload.length :=
  Envelope.length_write _

end Sending

/-! ## Receiving -/

theorem ttl_pos {config : ControlConfig} (h : config.problems = []) : 0 < config.ttl := by
  simp only [ControlConfig.problems, List.append_eq_nil_iff, Config.sentenceIf_eq_nil_iff] at h
  obtain ⟨⟨-, httl⟩, -⟩ := h
  simpa using httl

/-- The endpoint expects packets of this key: it reads the sender's messages, has room for
a packet, and has not seen the key. -/
structure Ready (endpoint : ControlEndpoint) (now : Millis) (key : PacketKey) : Prop where
  skew : 0 ≤ endpoint.config.maxClockSkew
  sender : endpoint.senders.allows key.sender = true
  room : endpoint.limiter.count < endpoint.limiter.limit
  unseen : ¬ endpoint.seen.Blocks now key

/-- The endpoint after a packet was admitted: the key is remembered and a lease is out. -/
def admitting (endpoint : ControlEndpoint) (now : Millis) (key : PacketKey) : ControlEndpoint :=
  { endpoint with
    seen := (endpoint.seen.register now key).2
    limiter := { endpoint.limiter with count := endpoint.limiter.count + 1 } }

/-- A packet with a new key that passes every other check is admitted. -/
theorem accept_of_inspect {endpoint : ControlEndpoint} {now : Millis} {packet : Bytes}
    {envelope : Envelope} (h : endpoint.inspect now packet = .ok envelope)
    (hunseen : ¬ endpoint.seen.Blocks now (keyOf envelope)) :
    endpoint.accept now packet = (some envelope, endpoint.admitting now (keyOf envelope)) := by
  have hfresh : (endpoint.seen.register now (keyOf envelope)).1 = true := by
    rw [ReplayWindow.register_eq_of_free hunseen]
  rw [accept, h]
  dsimp only
  rw [hfresh]
  rfl

/-- A packet that was encoded in the same instant is read by an endpoint that expects it,
unless it is too long for that endpoint. -/
theorem accept_encoded {endpoint : ControlEndpoint} {envelope : Envelope} {packet : Bytes}
    (hversion : envelope.version = 1) (httl : 0 < envelope.ttl)
    (hencode : envelope.encode = .ok packet)
    (hready : endpoint.Ready envelope.issuedAt (keyOf envelope)) :
    endpoint.accept envelope.issuedAt packet =
      if packet.length ≤ endpoint.config.maxPayload then
        (some envelope, endpoint.admitting envelope.issuedAt (keyOf envelope))
      else (none, endpoint.reject .packetTooLarge) := by
  split
  · rename_i hfits
    have hlength : packet.length =
        Envelope.headerSize + Utf8.size envelope.sender + envelope.payload.length := by
      obtain ⟨-, -, -, rfl⟩ := Envelope.encode_eq_ok_iff.mp hencode
      exact Envelope.length_write envelope
    refine accept_of_inspect (inspect_eq_ok_iff.mpr ⟨hfits, hready.room,
      Envelope.decode?_of_encode hversion hencode, hready.sender,
      Envelope.isTimely_issuedAt httl hready.skew, ?_⟩) hready.unseen
    omega
  · rename_i hlong
    have hinspect : endpoint.inspect envelope.issuedAt packet = .error .packetTooLarge := by
      rw [inspect, if_pos (Nat.not_le.mp hlong)]
    exact accept_of_error hinspect

/-! ## From one end to the other -/

section Sent

variable {σ : Type} (env : Surroundings σ) (slot : Slot σ ControlEndpoint) (kind : MessageKind)
  (payload : Bytes) (s : σ)

/-- **What becomes of a sent packet.**  A message that is sent without an error goes out as one
packet, and every receiver with the same bound that expects its key in that instant admits it
if the header, the id of the sender and the payload fit the bound together, and turns it away
as too long if they do not.  In the first case no rejected packet is counted. -/
theorem accept_sent (hproblems : (slot.get s).config.problems = [])
    (hsent : (send env slot kind payload s).1 = .ok ()) :
    send env slot kind payload s = (.ok (), (env.send controlChannel
        (outgoing env slot kind payload s).write (env.draw s).2).2) ∧
      ∀ receiver : ControlEndpoint,
        receiver.config.maxPayload = (slot.get s).config.maxPayload →
        receiver.Ready (env.now (env.draw s).2) (keyOf (outgoing env slot kind payload s)) →
        receiver.accept (env.now (env.draw s).2) (outgoing env slot kind payload s).write =
          if Envelope.headerSize + Utf8.size (slot.get s).config.sender + payload.length ≤
              (slot.get s).config.maxPayload then
            (some (outgoing env slot kind payload s), receiver.admitting
              (env.now (env.draw s).2) (keyOf (outgoing env slot kind payload s)))
          else (none, receiver.reject .packetTooLarge) := by
  obtain ⟨hencode, hsend⟩ := send_of_ok hsent
  refine ⟨hsend, fun receiver hbound hready => ?_⟩
  have haccept := accept_encoded rfl (ttl_pos hproblems) hencode hready
  rw [length_write_outgoing, hbound] at haccept
  exact haccept

end Sent

/-- A lonely endpoint with a bound of so many bytes. -/
def bounded (maxPayload : Nat) : Alone ControlEndpoint where
  clock := 0
  part := new { maxPayload := maxPayload } .any 0

/-- The answer of a backend that has sent a player back. -/
def redirected : Bytes := TransferResult.encode (.ok (.ofNat 1))

/-- An answer of 18 bytes travels in a packet of 64 bytes, which fits a bound of 64. -/
theorem sent_at_the_bound :
    (bounded 64).part.config.problems = [] ∧
      (send Alone.env Alone.slot .transferResult redirected (bounded 64)).1 = .ok () ∧
      ((bounded 64).part.accept 0 (outgoing Alone.env Alone.slot .transferResult redirected
        (bounded 64)).write).1 =
          some (outgoing Alone.env Alone.slot .transferResult redirected (bounded 64)) := by
  have hproblems : (bounded 64).part.config.problems = [] := by decide
  have hsent : (send Alone.env Alone.slot .transferResult redirected (bounded 64)).1 = .ok () := by
    decide
  obtain ⟨-, haccept⟩ := accept_sent Alone.env Alone.slot .transferResult redirected
    (bounded 64) hproblems hsent
  have hready : (bounded 64).part.Ready 0
      (keyOf (outgoing Alone.env Alone.slot .transferResult redirected (bounded 64))) :=
    ⟨by decide, rfl, by decide, fun ⟨seen, hseen, _⟩ => by cases hseen⟩
  have hfits : Envelope.headerSize + Utf8.size (bounded 64).part.config.sender +
      redirected.length ≤ (bounded 64).part.config.maxPayload := by decide
  have hadmitted := haccept (bounded 64).part rfl hready
  exact ⟨hproblems, hsent, congrArg Prod.fst (hadmitted.trans (if_pos hfits))⟩

/-- With a bound of 63 bytes the same answer is sent as well, and turned away. -/
theorem sent_but_turned_away :
    ¬ ∀ (σ : Type) (env : Surroundings σ) (slot : Slot σ ControlEndpoint) (kind : MessageKind)
        (payload : Bytes) (s : σ) (receiver : ControlEndpoint),
      (slot.get s).config.problems = [] → (send env slot kind payload s).1 = .ok () →
      receiver.config.maxPayload = (slot.get s).config.maxPayload →
      receiver.Ready (env.now (env.draw s).2) (keyOf (outgoing env slot kind payload s)) →
      (receiver.accept (env.now (env.draw s).2) (outgoing env slot kind payload s).write).1 =
        some (outgoing env slot kind payload s) := by
  intro h
  have hready : (bounded 63).part.Ready 0
      (keyOf (outgoing Alone.env Alone.slot .transferResult redirected (bounded 63))) :=
    ⟨by decide, rfl, by decide, fun ⟨seen, hseen, _⟩ => by cases hseen⟩
  have hadmitted := h _ Alone.env Alone.slot .transferResult redirected (bounded 63)
    (bounded 63).part (by decide) (by decide) rfl hready
  have hturned : ((bounded 63).part.accept 0 (outgoing Alone.env Alone.slot .transferResult
      redirected (bounded 63)).write).1 = none := by decide
  have hcontra := hturned.symm.trans hadmitted
  cases hcontra

end ControlEndpoint

end GameGateway
