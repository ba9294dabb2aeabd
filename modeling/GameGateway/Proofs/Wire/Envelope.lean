import GameGateway.Proofs.Wire.ConnectFrame
import GameGateway.Proofs.Wire.Inversion
import GameGateway.Wire.Envelope

/-!
# Envelopes read back

An envelope that can be encoded decodes to itself, whatever payload it carries.  The header
of an envelope has 41 bytes beside the id of the sender, and the payload follows it as it is:
so the length of a packet is known from that of the payload (`Envelope.length_write`).

There is no other way to spell an envelope: a packet that decodes is the one that its
envelope is written as (`Envelope.decode?_eq_some_iff`), so the payload of a packet is never
longer than the packet.

Reading and writing do not go by the same rule for the id of the sender.  The writer asks that
it is not blank, the reader only that it is not empty: a packet whose sender is a blank can be
read, and no endpoint can have written it (`Envelope.codec_exact`).
-/

namespace GameGateway

namespace Reader.Takes

theorem exactly (bytes : Bytes) : Takes (Reader.exactly bytes) bytes () := by
  have hrequire : Takes (Reader.require (decide (bytes = bytes))) [] () :=
    require (decide_eq_true rfl)
  have h : Takes (Reader.exactly bytes) (bytes ++ []) () := (take bytes).bind hrequire
  rwa [List.append_nil] at h

theorem int64 (n : Int64) : Takes Reader.int64 (Bytes.ofInt64 n) n := by
  have htake : Takes (Reader.take 8) (Bytes.ofInt64 n) (Bytes.ofInt64 n) :=
    take_of_length (Bytes.length_bigEndian 8 n.toUInt64.toNat)
  have hvalue : (UInt64.ofNat (Bytes.ofBigEndian (Bytes.ofInt64 n))).toInt64 = n := by
    rw [Bytes.ofInt64, Bytes.ofBigEndian_bigEndian n.toUInt64.toNat_lt_size, UInt64.ofNat_toNat]
    rfl
  have h := htake.bind_pure fun bytes => (UInt64.ofNat (Bytes.ofBigEndian bytes)).toInt64
  rwa [hvalue] at h

/-- A blob behind its length reads back if the length can be stated. -/
theorem sizedBytes {bytes : Bytes} (h : bytes.length ≤ Bytes.maxSized) :
    Takes Reader.sizedBytes (Bytes.sized bytes) bytes := by
  have hfits : bytes.length < Nat.pow 256 4 := Nat.lt_of_le_of_lt h (by decide)
  have hvalue : Bytes.ofBigEndian (Bytes.bigEndian 4 bytes.length) = bytes.length :=
    Bytes.ofBigEndian_bigEndian hfits
  have htake := take_of_length (Bytes.length_bigEndian 4 bytes.length)
  have hrequire := require (decide_eq_true h)
  have hlength :
      Takes Reader.length (Bytes.bigEndian 4 bytes.length ++ ([] ++ [])) bytes.length := by
    refine htake.bind ?_
    dsimp only
    rw [hvalue]
    exact hrequire.bind (pure bytes.length)
  rw [List.append_nil, List.append_nil] at hlength
  exact hlength.bind (take bytes)

end Reader.Takes

/-! ## Envelopes -/

namespace Envelope

open Reader (Takes)

/-- The bytes of a packet beside the id of its sender and its payload. -/
def headerSize : Nat := 41

/-- A packet is as long as its header, the id of its sender and its payload together. -/
theorem length_write (envelope : Envelope) :
    envelope.write.length = headerSize + Utf8.size envelope.sender + envelope.payload.length := by
  simp only [write, magic, headerSize, Bytes.sized, Bytes.ofInt64, List.length_append,
    List.length_cons, List.length_nil, Bytes.length_bigEndian, envelope.nonce.length_eq, Utf8.size]
  omega

theorem encode_eq_ok_iff {envelope : Envelope} {bytes : Bytes} :
    envelope.encode = .ok bytes ↔
      Text.isBlank envelope.sender = false ∧ Utf8.size envelope.sender ≤ maxSender ∧
        envelope.payload.length ≤ Bytes.maxSized ∧ envelope.write = bytes := by
  unfold encode
  by_cases hblank : Text.isBlank envelope.sender = true
  · simp [hblank]
  by_cases hlong : maxSender < Utf8.size envelope.sender
  · simp [hblank, hlong, Nat.not_le.mpr hlong]
  by_cases hlarge : Bytes.maxSized < envelope.payload.length
  · simp [hblank, hlong, hlarge, Nat.not_le.mpr hlarge]
  simp [hblank, hlong, hlarge, Nat.not_lt.mp hlong, Nat.not_lt.mp hlarge]

theorem size_pos_of_not_blank {text : String} (h : Text.isBlank text = false) :
    1 ≤ Utf8.size text := by
  refine Nat.pos_of_ne_zero fun hzero => ?_
  have hempty : text = "" := Utf8.encode_inj.mp (List.eq_nil_of_length_eq_zero hzero)
  rw [hempty] at h
  cases h

/-- An envelope that can be read: it is of the known version, the id of its sender has a length
that a packet may state, and its payload fits its length field. -/
structure Readable (envelope : Envelope) : Prop where
  version : envelope.version = 1
  named : 1 ≤ Utf8.size envelope.sender
  short : Utf8.size envelope.sender ≤ maxSender
  fits : envelope.payload.length ≤ Bytes.maxSized

theorem readable_of_encode {envelope : Envelope} {bytes : Bytes} (hversion : envelope.version = 1)
    (h : envelope.encode = .ok bytes) : envelope.Readable := by
  obtain ⟨hblank, hshort, hfits, -⟩ := encode_eq_ok_iff.mp h
  exact ⟨hversion, size_pos_of_not_blank hblank, hshort, hfits⟩

theorem takes_read {envelope : Envelope} (h : envelope.Readable) :
    Takes read envelope.write envelope := by
  have hcode : (UInt8.ofNat (Utf8.size envelope.sender)).toNat = Utf8.size envelope.sender := by
    have hbound : maxSender = 64 := rfl
    have hshort := h.short
    rw [UInt8.toNat_ofNat']
    omega
  have hkind : Takes (Reader.lift (WireCode.ofCode? (WireCode.code envelope.kind))) []
      envelope.kind := by
    rw [WireCode.ofCode?_eq_some_iff.mpr rfl]
    exact .lift envelope.kind
  have hsize : Takes (Reader.require
      (1 ≤ (UInt8.ofNat (Utf8.size envelope.sender)).toNat ∧
        (UInt8.ofNat (Utf8.size envelope.sender)).toNat ≤ maxSender)) [] () := by
    rw [hcode]
    exact .require (decide_eq_true ⟨h.named, h.short⟩)
  have htake : Takes (Reader.take (UInt8.ofNat (Utf8.size envelope.sender)).toNat)
      (Utf8.encode envelope.sender) (Utf8.encode envelope.sender) := by
    rw [hcode]
    exact .take (Utf8.encode envelope.sender)
  have htext : Takes (Reader.lift (Utf8.decode (Utf8.encode envelope.sender))) []
      envelope.sender := by
    rw [Utf8.decode_encode]
    exact .lift envelope.sender
  -- The parts in the order in which the reader asks for them.
  have hwrite : envelope.write = magic ++ ([envelope.version] ++ ([] ++
      ([WireCode.code envelope.kind] ++ ([] ++ ([UInt8.ofNat (Utf8.size envelope.sender)] ++ ([] ++
      (Utf8.encode envelope.sender ++ ([] ++ (Bytes.ofInt64 envelope.issuedAt ++
      (Bytes.ofInt64 envelope.ttl ++ (envelope.nonce.bytes ++
      (Bytes.sized envelope.payload ++ [])))))))))))) := by
    simp [write]
  rw [hwrite]
  unfold read
  refine (Takes.exactly magic).bind ?_
  refine (Takes.byte envelope.version).bind ?_
  refine (Takes.require (decide_eq_true h.version)).bind ?_
  refine (Takes.byte (WireCode.code envelope.kind)).bind ?_
  refine hkind.bind ?_
  refine (Takes.byte (UInt8.ofNat (Utf8.size envelope.sender))).bind ?_
  refine hsize.bind ?_
  refine htake.bind ?_
  refine htext.bind ?_
  refine (Takes.int64 envelope.issuedAt).bind ?_
  refine (Takes.int64 envelope.ttl).bind ?_
  refine (Takes.block envelope.nonce).bind ?_
  refine (Takes.sizedBytes h.fits).bind ?_
  exact Takes.pure envelope

/-- What is encoded decodes to what it was. -/
theorem decode?_of_encode {envelope : Envelope} {bytes : Bytes} (hversion : envelope.version = 1)
    (h : envelope.encode = .ok bytes) : decode? bytes = some envelope := by
  obtain ⟨-, -, -, rfl⟩ := encode_eq_ok_iff.mp h
  exact Reader.whole_of_takes (takes_read (readable_of_encode hversion h))

open Reader (bind_eq_some_iff) in
/-- What is read off the front is the packet of an envelope that can be read. -/
theorem of_read {envelope : Envelope} {bytes rest : Bytes}
    (h : read bytes = some (envelope, rest)) :
    envelope.Readable ∧ bytes = envelope.write ++ rest := by
  unfold read at h
  -- The parts in the order in which they are read.
  obtain ⟨u, b1, readMagic, h⟩ := bind_eq_some_iff.mp h
  obtain ⟨version, b2, readVersion, h⟩ := bind_eq_some_iff.mp h
  obtain ⟨u, b3, versionKnown, h⟩ := bind_eq_some_iff.mp h
  obtain ⟨code, b4, readCode, h⟩ := bind_eq_some_iff.mp h
  obtain ⟨kind, b5, kindKnown, h⟩ := bind_eq_some_iff.mp h
  obtain ⟨size, b6, readSize, h⟩ := bind_eq_some_iff.mp h
  obtain ⟨u, b7, sizeKnown, h⟩ := bind_eq_some_iff.mp h
  obtain ⟨letters, b8, readLetters, h⟩ := bind_eq_some_iff.mp h
  obtain ⟨sender, b9, senderKnown, h⟩ := bind_eq_some_iff.mp h
  obtain ⟨issuedAt, b10, readIssuedAt, h⟩ := bind_eq_some_iff.mp h
  obtain ⟨ttl, b11, readTtl, h⟩ := bind_eq_some_iff.mp h
  obtain ⟨nonce, b12, readNonce, h⟩ := bind_eq_some_iff.mp h
  obtain ⟨payload, b13, readPayload, h⟩ := bind_eq_some_iff.mp h
  obtain ⟨rfl, rfl⟩ := Reader.pure_eq_some_iff.mp h
  -- What each of them has taken, in the same order.
  obtain rfl := Reader.exactly_eq_some readMagic
  obtain rfl := Reader.byte_eq_some_iff.mp readVersion
  obtain ⟨hversion, rfl⟩ := Reader.require_eq_some_iff.mp versionKnown
  obtain rfl := Reader.byte_eq_some_iff.mp readCode
  obtain ⟨hkind, rfl⟩ := Reader.lift_eq_some_iff.mp kindKnown
  obtain rfl := WireCode.ofCode?_eq_some_iff.mp hkind
  obtain rfl := Reader.byte_eq_some_iff.mp readSize
  obtain ⟨hbounds, rfl⟩ := Reader.require_eq_some_iff.mp sizeKnown
  obtain ⟨rfl, hlength⟩ := Reader.take_eq_some_iff.mp readLetters
  obtain ⟨hsender, rfl⟩ := Reader.lift_eq_some_iff.mp senderKnown
  obtain rfl := Utf8.encode_of_decode hsender
  obtain rfl := Reader.int64_eq_some readIssuedAt
  obtain rfl := Reader.int64_eq_some readTtl
  obtain rfl := Reader.block_eq_some readNonce
  have hfits := Reader.length_le_of_sizedBytes readPayload
  obtain rfl := Reader.sizedBytes_eq_some readPayload
  obtain ⟨hnamed, hshort⟩ := of_decide_eq_true hbounds
  rw [← hlength] at hnamed hshort
  have hsize : UInt8.ofNat (Utf8.size sender) = size := by
    rw [Utf8.size, hlength, UInt8.ofNat_toNat]
  exact ⟨⟨of_decide_eq_true hversion, hnamed, hshort, hfits⟩, by simp [write, hsize]⟩

theorem read_eq_some_iff {envelope : Envelope} {bytes rest : Bytes} :
    read bytes = some (envelope, rest) ↔ envelope.Readable ∧ bytes = envelope.write ++ rest := by
  constructor
  · exact of_read
  · rintro ⟨hreadable, rfl⟩
    exact takes_read hreadable rest

/-- A packet decodes exactly if it is the packet of an envelope that can be read. -/
theorem decode?_eq_some_iff {envelope : Envelope} {packet : Bytes} :
    decode? packet = some envelope ↔ envelope.Readable ∧ envelope.write = packet := by
  rw [decode?, Reader.whole_eq_some_iff, read_eq_some_iff, List.append_nil, eq_comm]

theorem length_of_decode? {envelope : Envelope} {packet : Bytes}
    (h : decode? packet = some envelope) :
    packet.length = headerSize + Utf8.size envelope.sender + envelope.payload.length := by
  obtain ⟨-, rfl⟩ := decode?_eq_some_iff.mp h
  exact length_write envelope

/-! ### Blank senders -/

/-- The id of the sender is blank, which is all that keeps the envelope from being written. -/
structure Anonymous (envelope : Envelope) : Prop where
  blank : Text.isBlank envelope.sender = true
  size : 1 ≤ Utf8.size envelope.sender ∧ Utf8.size envelope.sender ≤ 64
  fits : envelope.payload.length ≤ 2 ^ 31 - 1

variable {envelope : Envelope} {bytes : Bytes}

theorem encode_eq_blank_iff : envelope.encode = .error (.blankField "sender_id") ↔
    Text.isBlank envelope.sender = true := by
  unfold encode
  by_cases hblank : Text.isBlank envelope.sender = true
  · simp [hblank]
  by_cases hlong : maxSender < Utf8.size envelope.sender
  · simp [hblank, hlong]
  by_cases hlarge : Bytes.maxSized < envelope.payload.length
  · simp [hblank, hlong, hlarge]
  simp [hblank, hlong, hlarge]

/-- An envelope that can be read can be written, unless its sender is blank. -/
theorem readable_and_write_iff : envelope.Readable ∧ envelope.write = bytes ↔
    envelope.version = 1 ∧
      (envelope.encode = .ok bytes ∨ envelope.Anonymous ∧ envelope.write = bytes) := by
  constructor
  · rintro ⟨⟨hversion, hnamed, hshort, hfits⟩, hwrite⟩
    refine ⟨hversion, ?_⟩
    cases hblank : Text.isBlank envelope.sender with
    | false => exact .inl (encode_eq_ok_iff.mpr ⟨hblank, hshort, hfits, hwrite⟩)
    | true => exact .inr ⟨⟨hblank, ⟨hnamed, hshort⟩, hfits⟩, hwrite⟩
  · rintro ⟨hversion, hencode | ⟨hanonymous, hwrite⟩⟩
    · obtain ⟨-, -, -, hwrite⟩ := encode_eq_ok_iff.mp hencode
      exact ⟨readable_of_encode hversion hencode, hwrite⟩
    · exact ⟨⟨hversion, hanonymous.size.1, hanonymous.size.2, hanonymous.fits⟩, hwrite⟩

/-- **What is read and what is written.**  A packet decodes as an envelope of the known version
that is encoded as this packet, or as one that is not encoded because its sender is blank.  So
decoding and encoding undo each other on an envelope and a packet exactly if this is not the
packet of an envelope with a blank sender. -/
theorem codec_exact (envelope : Envelope) (bytes : Bytes) :
    (decode? bytes = some envelope ↔ envelope.version = 1 ∧
      (envelope.encode = .ok bytes ∨ envelope.Anonymous ∧ envelope.write = bytes)) ∧
    (envelope.encode = .error (.blankField "sender_id") ↔
      Text.isBlank envelope.sender = true) ∧
    ((decode? bytes = some envelope ↔ envelope.version = 1 ∧ envelope.encode = .ok bytes) ↔
      ¬ (envelope.version = 1 ∧ envelope.Anonymous ∧ envelope.write = bytes)) := by
  have hdecode : decode? bytes = some envelope ↔ envelope.version = 1 ∧
      (envelope.encode = .ok bytes ∨ envelope.Anonymous ∧ envelope.write = bytes) :=
    decode?_eq_some_iff.trans readable_and_write_iff
  have hunwritten : envelope.Anonymous → envelope.encode ≠ .ok bytes := by
    intro hanonymous hencode
    rw [encode_eq_blank_iff.mpr hanonymous.blank] at hencode
    cases hencode
  refine ⟨hdecode, encode_eq_blank_iff, ?_⟩
  rw [hdecode]
  constructor
  · rintro hsame ⟨hversion, hanonymous, hwrite⟩
    exact hunwritten hanonymous (hsame.mp ⟨hversion, .inr ⟨hanonymous, hwrite⟩⟩).2
  · intro hnamed
    constructor
    · rintro ⟨hversion, hencode | ⟨hanonymous, hwrite⟩⟩
      · exact ⟨hversion, hencode⟩
      · exact absurd ⟨hversion, hanonymous, hwrite⟩ hnamed
    · rintro ⟨hversion, hencode⟩
      exact ⟨hversion, .inl hencode⟩

/-- An envelope whose sender is a single blank. -/
def unsigned : Envelope where
  kind := .backendStatus
  sender := " "
  issuedAt := 1000
  ttl := 500
  nonce := ⟨List.replicate 16 7, List.length_replicate⟩
  payload := [1, 2]

/-- The packet of this envelope is read, though nobody can have written it. -/
theorem blank_sender_read : ¬ ∀ (envelope : Envelope) (bytes : Bytes),
    decode? bytes = some envelope ↔ envelope.version = 1 ∧ envelope.encode = .ok bytes := by
  intro h
  have hread : decode? unsigned.write = some unsigned := by decide
  have hwritten := ((h unsigned unsigned.write).mp hread).2
  have hrefused : unsigned.encode = .error (.blankField "sender_id") :=
    encode_eq_blank_iff.mpr (by decide)
  rw [hrefused] at hwritten
  cases hwritten

end Envelope

end GameGateway
