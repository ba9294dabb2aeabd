import Mathlib.Logic.ExistsUnique
import GameGateway.Proofs.Chains
import GameGateway.Proofs.Wire.Envelope
import GameGateway.Wire.MessagingFrame

/-!
# Messaging frames have one spelling

Whether a datagram is authentic is not decided on its bytes: it is decoded, and the tag is
compared with that of the frame as it would be written again.  This is the same thing because
a frame has one spelling.  A datagram decodes exactly if it is a frame that can be sent with
some tag behind it (`MessagingFrame.decode?_eq_some_iff`), and of all tags one is right.

The body of each kind is set against its reader twice: what was written is read
(`takes_body`), and what was read is what would be written (`of_readBody`).
-/

namespace GameGateway

namespace MessagingFrame

open Reader (Takes)

/-- Handshakes and their acknowledgements can always be sent, and a message on a channel whose
name has 1 to 1024 bytes with a payload that a signed length can state. -/
def Sendable : MessagingFrame → Prop
  | handshake _ _ | acknowledgement _ => True
  | message channel payload =>
      1 ≤ Utf8.size channel ∧ Utf8.size channel ≤ 1024 ∧ payload.length ≤ 2 ^ 31 - 1

/-- The bytes of a frame with a tag, be it the right one or not. -/
def withTag (frame : MessagingFrame) (tag : Block 32) : Bytes :=
  magic ++ frame.signedBytes ++ tag.bytes

variable {frame : MessagingFrame} {bytes secret : Bytes} {tag : Block 32}

/-! ## Writing -/

theorem isChannelLength_eq_true_iff {length : Nat} :
    isChannelLength length = true ↔ 1 ≤ length ∧ length ≤ 1024 := by
  exact decide_eq_true_iff

theorem check_eq_ok_iff : frame.check = .ok () ↔ frame.Sendable := by
  cases frame with
  | handshake timestamp nonce => exact iff_of_true rfl trivial
  | acknowledgement nonce => exact iff_of_true rfl trivial
  | message channel payload =>
      have hfits : payload.length ≤ 2 ^ 31 - 1 ↔ ¬ Bytes.maxSized < payload.length :=
        Nat.not_lt.symm
      rw [Sendable, ← and_assoc, ← isChannelLength_eq_true_iff, hfits, check]
      by_cases hchannel : isChannelLength (Utf8.size channel) = true
      · by_cases hpayload : Bytes.maxSized < payload.length
        · simp [hchannel, hpayload]
        · simp [hchannel, hpayload]
      · simp [hchannel]

theorem encode_eq_ok_iff : frame.encode secret = .ok bytes ↔
    frame.Sendable ∧ bytes = frame.withTag (Hmac.sign secret frame.signedBytes) := by
  unfold encode
  rw [bind_unit_eq_ok_iff, check_eq_ok_iff]
  refine and_congr_right fun _ => ?_
  constructor
  · intro h
    cases h
    rfl
  · rintro rfl
    rfl

theorem verify_eq_true_iff : SignedFrame.verify secret ⟨frame, tag⟩ = true ↔
    frame.Sendable ∧ tag = Hmac.sign secret frame.signedBytes := by
  unfold SignedFrame.verify
  rw [← check_eq_ok_iff]
  cases hcheck : frame.check with
  | error e => simp
  | ok u =>
      simp only [true_and, Hmac.verify_eq_true_iff]
      exact ⟨Block.ext, congrArg Block.bytes⟩

/-! ## Reading -/

/-- The body of a frame that can be sent is read as this frame. -/
theorem takes_body (h : frame.Sendable) : Takes (readBody frame.typeByte) frame.body frame := by
  cases frame with
  | handshake timestamp nonce =>
      have hbody : (handshake timestamp nonce).body =
          Bytes.ofInt64 timestamp ++ (nonce.bytes ++ []) := by simp [body]
      rw [hbody]
      refine (Takes.int64 timestamp).bind ?_
      refine (Takes.block nonce).bind ?_
      exact Takes.pure (handshake timestamp nonce)
  | acknowledgement nonce =>
      have hbody : (acknowledgement nonce).body = nonce.bytes ++ [] := by simp [body]
      rw [hbody]
      refine (Takes.block nonce).bind ?_
      exact Takes.pure (acknowledgement nonce)
  | message channel payload =>
      obtain ⟨hpos, hshort, hpayload⟩ := h
      have hname : Utf8.size channel ≤ Bytes.maxSized := Nat.le_trans hshort (by decide)
      have htext : Takes (Reader.lift (Utf8.decode (Utf8.encode channel))) [] channel := by
        rw [Utf8.decode_encode]
        exact .lift channel
      have hchannel : Takes Reader.sizedText (Bytes.sized (Utf8.encode channel) ++ []) channel :=
        (Takes.sizedBytes hname).bind htext
      have hlength : Takes (Reader.require (isChannelLength (Utf8.size channel))) [] () :=
        .require (isChannelLength_eq_true_iff.mpr ⟨hpos, hshort⟩)
      have hbody : (message channel payload).body =
          (Bytes.sized (Utf8.encode channel) ++ []) ++ ([] ++ (Bytes.sized payload ++ [])) := by
        simp [body]
      rw [hbody]
      refine hchannel.bind ?_
      refine hlength.bind ?_
      refine (Takes.sizedBytes hpayload).bind ?_
      exact Takes.pure (message channel payload)

open Reader (bind_eq_some_iff) in
/-- What is read as a frame is the body of this frame, which can be sent. -/
theorem of_readBody {type : UInt8} {rest : Bytes} (h : readBody type bytes = some (frame, rest)) :
    type = frame.typeByte ∧ bytes = frame.body ++ rest ∧ frame.Sendable := by
  unfold readBody at h
  split at h
  · rename_i htype
    obtain ⟨timestamp, b1, readTimestamp, h⟩ := bind_eq_some_iff.mp h
    obtain ⟨nonce, b2, readNonce, h⟩ := bind_eq_some_iff.mp h
    obtain ⟨rfl, rfl⟩ := Reader.pure_eq_some_iff.mp h
    obtain rfl := Reader.int64_eq_some readTimestamp
    obtain rfl := Reader.block_eq_some readNonce
    exact ⟨htype, (List.append_assoc ..).symm, trivial⟩
  split at h
  · rename_i htype
    obtain ⟨nonce, b1, readNonce, h⟩ := bind_eq_some_iff.mp h
    obtain ⟨rfl, rfl⟩ := Reader.pure_eq_some_iff.mp h
    exact ⟨htype, Reader.block_eq_some readNonce, trivial⟩
  split at h
  · rename_i htype
    obtain ⟨channel, b1, readChannel, h⟩ := bind_eq_some_iff.mp h
    obtain ⟨u, b2, channelFits, h⟩ := bind_eq_some_iff.mp h
    obtain ⟨payload, b3, readPayload, h⟩ := bind_eq_some_iff.mp h
    obtain ⟨rfl, rfl⟩ := Reader.pure_eq_some_iff.mp h
    obtain ⟨letters, b4, readLetters, textKnown⟩ := bind_eq_some_iff.mp readChannel
    obtain ⟨hlength, rfl⟩ := Reader.require_eq_some_iff.mp channelFits
    obtain ⟨hpos, hshort⟩ := isChannelLength_eq_true_iff.mp hlength
    obtain ⟨hchannel, rfl⟩ := Reader.lift_eq_some_iff.mp textKnown
    obtain rfl := Utf8.encode_of_decode hchannel
    have hpayload := Reader.length_le_of_sizedBytes readPayload
    obtain rfl := Reader.sizedBytes_eq_some readLetters
    obtain rfl := Reader.sizedBytes_eq_some readPayload
    exact ⟨htype, (List.append_assoc ..).symm, hpos, hshort, hpayload⟩
  · cases h

open Reader (bind_eq_some_iff) in
theorem readHead_eq_some_iff {type : UInt8} {rest : Bytes} :
    readHead bytes = some (type, rest) ↔ bytes = magic ++ ([1, type] ++ rest) := by
  unfold readHead
  constructor
  · intro h
    obtain ⟨u, b1, readMagic, h⟩ := bind_eq_some_iff.mp h
    obtain ⟨version, b2, readVersion, h⟩ := bind_eq_some_iff.mp h
    obtain ⟨u, b3, versionKnown, h⟩ := bind_eq_some_iff.mp h
    obtain rfl := Reader.exactly_eq_some readMagic
    obtain rfl := Reader.byte_eq_some_iff.mp readVersion
    obtain ⟨hversion, rfl⟩ := Reader.require_eq_some_iff.mp versionKnown
    obtain rfl := Reader.byte_eq_some_iff.mp h
    rw [of_decide_eq_true hversion]
    rfl
  · rintro rfl
    have hread : Takes readHead (magic ++ ([1] ++ ([] ++ [type]))) type := by
      refine (Takes.exactly magic).bind ?_
      refine (Takes.byte 1).bind ?_
      refine (Takes.require (decide_eq_true rfl)).bind ?_
      exact Takes.byte type
    exact hread rest

/-- The last 32 bytes are the tag, and the others stand before it. -/
theorem cut_append (front : Bytes) (tag : Block 32) :
    (front ++ tag.bytes).take ((front ++ tag.bytes).length - 32) = front ∧
      (front ++ tag.bytes).drop ((front ++ tag.bytes).length - 32) = tag.bytes := by
  have hlength : (front ++ tag.bytes).length - 32 = front.length := by
    rw [List.length_append, tag.length_eq, Nat.add_sub_cancel]
  rw [hlength]
  exact ⟨List.take_left, List.drop_left⟩

/-- A datagram decodes exactly if it is a frame that can be sent, with some tag. -/
theorem decode?_eq_some_iff :
    decode? bytes = some ⟨frame, tag⟩ ↔ frame.Sendable ∧ bytes = frame.withTag tag := by
  constructor
  · intro h
    obtain ⟨⟨type, rest⟩, hhead, h⟩ := Option.bind_eq_some_iff.mp h
    obtain ⟨found, htag, h⟩ := Option.bind_eq_some_iff.mp h
    obtain ⟨read, hbody, h⟩ := Option.bind_eq_some_iff.mp h
    cases h
    obtain rfl := readHead_eq_some_iff.mp hhead
    obtain ⟨rfl, hbytes, hsendable⟩ := of_readBody (Reader.whole_eq_some_iff.mp hbody)
    rw [List.append_nil] at hbytes
    refine ⟨hsendable, ?_⟩
    rw [← List.take_append_drop (rest.length - 32) rest, hbytes,
      Block.ofBytes?_eq_some_iff.mp htag, withTag, signedBytes]
    simp only [List.append_assoc]
  · rintro ⟨hsendable, rfl⟩
    have hhead : readHead (frame.withTag tag) = some (frame.typeByte, frame.body ++ tag.bytes) := by
      rw [readHead_eq_some_iff, withTag, signedBytes]
      simp only [List.append_assoc]
    obtain ⟨hfront, hback⟩ := cut_append frame.body tag
    have hbody : (readBody frame.typeByte).whole frame.body = some frame :=
      Reader.whole_of_takes (takes_body hsendable)
    have htag : Block.ofBytes? 32 tag.bytes = some tag := Block.ofBytes?_eq_some_iff.mpr rfl
    unfold decode?
    simp only [hhead, Option.bind_eq_bind, Option.bind_some, hfront, hback, htag, hbody]

/-! ## Authentic frames -/

/-- A datagram is decoded as a frame and found authentic exactly if it is what is sent for
this frame. -/
theorem authentic_iff : (∃ signed, decode? bytes = some signed ∧ signed.verify secret = true ∧
    signed.frame = frame) ↔ frame.encode secret = .ok bytes := by
  rw [encode_eq_ok_iff]
  constructor
  · rintro ⟨⟨_, tag⟩, hdecode, hverify, rfl⟩
    obtain ⟨hsendable, rfl⟩ := decode?_eq_some_iff.mp hdecode
    obtain ⟨-, rfl⟩ := verify_eq_true_iff.mp hverify
    exact ⟨hsendable, rfl⟩
  · rintro ⟨hsendable, rfl⟩
    exact ⟨_, decode?_eq_some_iff.mpr ⟨hsendable, rfl⟩,
      verify_eq_true_iff.mpr ⟨hsendable, rfl⟩, rfl⟩

theorem encode_injective {other : MessagingFrame} (h : frame.encode secret = .ok bytes)
    (hother : other.encode secret = .ok bytes) : other = frame := by
  obtain ⟨signed, hdecode, -, rfl⟩ := authentic_iff.mpr h
  obtain ⟨signed', hdecode', -, rfl⟩ := authentic_iff.mpr hother
  rw [hdecode] at hdecode'
  rw [Option.some.inj hdecode']

/-- **Authentic datagrams are the encoded ones.**  A datagram decodes and verifies under a
secret exactly if it is the encoding of a frame under this secret; there is one such frame
then, the one that it decodes to.  A frame is encoded, and decodes to itself, exactly if it
can be sent. -/
theorem authentic_exactly_encoded (secret : Bytes) :
    (∀ bytes, (∃ signed, decode? bytes = some signed ∧ signed.verify secret = true) ↔
      ∃! frame : MessagingFrame, frame.encode secret = .ok bytes) ∧
    (∀ bytes (frame : MessagingFrame), frame.encode secret = .ok bytes ↔
      ∃ signed, decode? bytes = some signed ∧ signed.verify secret = true ∧
        signed.frame = frame) ∧
    ∀ frame : MessagingFrame, frame.Sendable ↔
      ∃ bytes tag, frame.encode secret = .ok bytes ∧ decode? bytes = some ⟨frame, tag⟩ := by
  refine ⟨fun bytes => ?_, fun bytes frame => authentic_iff.symm, fun frame => ?_⟩
  · constructor
    · rintro ⟨signed, hdecode, hverify⟩
      have hencode := authentic_iff.mp ⟨signed, hdecode, hverify, rfl⟩
      exact ⟨signed.frame, hencode, fun other hother => encode_injective hencode hother⟩
    · rintro ⟨frame, hencode, -⟩
      obtain ⟨signed, hdecode, hverify, -⟩ := authentic_iff.mpr hencode
      exact ⟨signed, hdecode, hverify⟩
  · constructor
    · intro hsendable
      exact ⟨_, _, encode_eq_ok_iff.mpr ⟨hsendable, rfl⟩, decode?_eq_some_iff.mpr ⟨hsendable, rfl⟩⟩
    · rintro ⟨bytes, tag, hencode, -⟩
      exact (encode_eq_ok_iff.mp hencode).1

end MessagingFrame

end GameGateway
