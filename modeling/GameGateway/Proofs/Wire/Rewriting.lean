import GameGateway.Proofs.Wire.ConnectFrame
import GameGateway.Proofs.Wire.Inversion

/-!
# Connect frames written again

A reader of connect frames takes numbers with leading zero groups as well, so a frame has many
spellings.  The writer gives the shortest of them: whatever was read is within the limits and
takes no more bytes to write than were read (`ConnectFrame.read_eq_some`).  So a proxy can
always write a frame that it has read, under the limits under which it has read it, and what it
writes is read as the same frame again (`ConnectFrame.codec_agrees`).
-/

namespace GameGateway

/-! ## Numbers, blobs and texts -/

namespace VarInt

/-- A number fits its groups, and no spelling of it is shorter than the one that is written. -/
theorem scan_eq_some {more n : Nat} {bytes rest : Bytes} (h : scan more bytes = some (n, rest)) :
    n < 2 ^ (7 * more + 4) ∧ (groups more n).length + rest.length ≤ bytes.length := by
  induction more generalizing n bytes with
  | zero =>
      cases bytes with
      | nil => cases h
      | cons byte tail =>
          rw [scan] at h
          split at h
          · rename_i hlow
            cases h
            rw [UInt8.lt_iff_toNat_lt] at hlow
            exact ⟨hlow, by simp [groups, Nat.add_comm]⟩
          · cases h
  | succ more ih =>
      have hpow : 2 ^ (7 * (more + 1) + 4) = 2 ^ (7 * more + 4) * 128 := by
        rw [show 7 * (more + 1) + 4 = (7 * more + 4) + 7 by omega, Nat.pow_add]
      have hpos : 0 < 2 ^ (7 * more + 4) := Nat.two_pow_pos _
      cases bytes with
      | nil => cases h
      | cons byte tail =>
          rw [scan] at h
          split at h
          · rename_i hlast
            cases h
            rw [UInt8.lt_iff_toNat_lt] at hlast
            have hlast : byte.toNat < 128 := hlast
            rw [groups, if_pos hlast, List.length_singleton, List.length_cons]
            omega
          · obtain ⟨⟨high, after⟩, hscan, hresult⟩ := Option.map_eq_some_iff.mp h
            cases hresult
            obtain ⟨hlt, hlength⟩ := ih hscan
            have hbyte := byte.toNat_lt
            refine ⟨by omega, ?_⟩
            rw [groups, List.length_cons]
            split
            · rw [List.length_singleton]
              omega
            · have hdiv : (byte.toNat - 128 + 128 * high) / 128 = high := by omega
              rw [hdiv, List.length_cons]
              omega

theorem read_eq_some {n : UInt32} {bytes rest : Bytes} (h : read bytes = some (n, rest)) :
    (write n).length + rest.length ≤ bytes.length := by
  obtain ⟨⟨value, after⟩, hscan, hresult⟩ := Option.map_eq_some_iff.mp h
  cases hresult
  obtain ⟨hlt, hlength⟩ := scan_eq_some hscan
  rw [write, UInt32.toNat_ofNat', Nat.mod_eq_of_lt hlt]
  exact hlength

/-- A blob that is read is within its limit, and writing it takes no more bytes. -/
theorem blob_eq_some {max : Nat} {data bytes rest : Bytes}
    (h : blob max bytes = some (data, rest)) :
    (data.length ≤ max ∧ data.length ≤ 0xffffffff) ∧
      (writeBlob data).length + rest.length ≤ bytes.length := by
  obtain ⟨n, between, hread, hchecked⟩ := Reader.bind_eq_some_iff.mp h
  obtain ⟨u, same, hrequire, htake⟩ := Reader.bind_eq_some_iff.mp hchecked
  obtain ⟨hmax, rfl⟩ := Reader.require_eq_some_iff.mp hrequire
  obtain ⟨rfl, hlength⟩ := Reader.take_eq_some_iff.mp htake
  have hspelled := read_eq_some hread
  have hmax := of_decide_eq_true hmax
  have hlt := n.toNat_lt
  rw [← hlength] at hmax hlt
  refine ⟨⟨hmax, Nat.le_of_lt_succ hlt⟩, ?_⟩
  rw [writeBlob, hlength, UInt32.ofNat_toNat]
  simp only [List.length_append] at hspelled ⊢
  omega

theorem text_eq_some {max : Nat} {value : String} {bytes rest : Bytes}
    (h : text max bytes = some (value, rest)) :
    (Utf8.size value ≤ max ∧ Utf8.size value ≤ 0xffffffff) ∧
      (writeText value).length + rest.length ≤ bytes.length := by
  obtain ⟨data, between, hblob, hlift⟩ := Reader.bind_eq_some_iff.mp h
  obtain ⟨hdecode, rfl⟩ := Reader.lift_eq_some_iff.mp hlift
  obtain rfl := Utf8.encode_of_decode hdecode
  exact blob_eq_some hblob

end VarInt

/-! ## Frames -/

namespace ConnectFrame

/-- What holds of every part that is read holds of an optional part that is there. -/
theorem readOptional_eq_some {α : Type} {presence bit : UInt8} {reader : Reader α}
    {write : α → Bytes} {P : α → Prop} {part : Option α} {bytes rest : Bytes}
    (hreader : ∀ a bytes rest, reader bytes = some (a, rest) →
      P a ∧ (write a).length + rest.length ≤ bytes.length)
    (h : readOptional presence bit reader bytes = some (part, rest)) :
    (∀ a, part = some a → P a) ∧
      (writeOptional write part).length + rest.length ≤ bytes.length := by
  unfold readOptional at h
  split at h
  · rw [map_eq_pure_bind] at h
    obtain ⟨a, between, hread, hpure⟩ := Reader.bind_eq_some_iff.mp h
    obtain ⟨rfl, rfl⟩ := Reader.pure_eq_some_iff.mp hpure
    obtain ⟨ha, hlength⟩ := hreader a bytes between hread
    refine ⟨fun b hb => ?_, hlength⟩
    cases hb
    exact ha
  · obtain ⟨rfl, rfl⟩ := Reader.pure_eq_some_iff.mp h
    simp [writeOptional]

theorem readSource_eq_some {limits : ProtocolLimits} {source : HostAddress} {bytes rest : Bytes}
    (h : readSource limits bytes = some (source, rest)) :
    (Utf8.size source.host ≤ limits.host ∧ Utf8.size source.host ≤ 0xffffffff) ∧
      (writeSource source).length + rest.length ≤ bytes.length := by
  obtain ⟨number, between, hnumber, hrest⟩ := Reader.bind_eq_some_iff.mp h
  obtain ⟨host, after, hhost, hpure⟩ := Reader.bind_eq_some_iff.mp hrest
  obtain ⟨rfl, rfl⟩ := Reader.pure_eq_some_iff.mp hpure
  obtain rfl := Reader.uint16_eq_some hnumber
  obtain ⟨hsize, hlength⟩ := VarInt.text_eq_some hhost
  refine ⟨hsize, ?_⟩
  simp only [writeSource, List.length_append] at hlength ⊢
  omega

/-- A frame that is read is within the limits, and writing it takes no more bytes. -/
theorem read_eq_some {limits : ProtocolLimits} {frame : ConnectFrame} {bytes rest : Bytes}
    (h : read limits bytes = some (frame, rest)) :
    Within limits frame ∧ Within spellable frame ∧
      frame.write.length + rest.length ≤ bytes.length := by
  have hplayer : ∀ (id : Uuid) (bytes rest : Bytes), Reader.uuid bytes = some (id, rest) →
      True ∧ id.bytes.length + rest.length ≤ bytes.length := by
    intro id bytes rest hread
    rw [Reader.uuid_eq_some hread, List.length_append]
    exact ⟨trivial, Nat.le_refl _⟩
  -- The parts in the order in which they are read.
  obtain ⟨protocolCrc, b1, readCrc, h⟩ := Reader.bind_eq_some_iff.mp h
  obtain ⟨protocolBuild, b2, readBuild, h⟩ := Reader.bind_eq_some_iff.mp h
  obtain ⟨clientVersion, b3, readVersion, h⟩ := Reader.bind_eq_some_iff.mp h
  obtain ⟨clientType, b4, readType, h⟩ := Reader.bind_eq_some_iff.mp h
  obtain ⟨language, b5, readLanguage, h⟩ := Reader.bind_eq_some_iff.mp h
  obtain ⟨presence, b6, readPresence, h⟩ := Reader.bind_eq_some_iff.mp h
  obtain ⟨u, b7, readKnown, h⟩ := Reader.bind_eq_some_iff.mp h
  obtain ⟨identityToken, b8, readIdentity, h⟩ := Reader.bind_eq_some_iff.mp h
  obtain ⟨playerId, b9, readPlayer, h⟩ := Reader.bind_eq_some_iff.mp h
  obtain ⟨username, b10, readUsername, h⟩ := Reader.bind_eq_some_iff.mp h
  obtain ⟨referralData, b11, readData, h⟩ := Reader.bind_eq_some_iff.mp h
  obtain ⟨referralSource, b12, readSource, h⟩ := Reader.bind_eq_some_iff.mp h
  obtain ⟨rfl, rfl⟩ := Reader.pure_eq_some_iff.mp h
  -- What each of them has taken, in the same order.
  obtain rfl := Reader.uint32_eq_some readCrc
  obtain rfl := Reader.uint32_eq_some readBuild
  obtain ⟨hversion, versionLength⟩ := VarInt.text_eq_some readVersion
  obtain rfl := Reader.byte_eq_some_iff.mp readType
  obtain ⟨hlanguage, languageLength⟩ := VarInt.text_eq_some readLanguage
  obtain rfl := Reader.byte_eq_some_iff.mp readPresence
  obtain ⟨-, rfl⟩ := Reader.require_eq_some_iff.mp readKnown
  obtain ⟨hidentity, identityLength⟩ :=
    readOptional_eq_some (fun _ _ _ => VarInt.text_eq_some) readIdentity
  obtain ⟨-, playerLength⟩ :=
    readOptional_eq_some hplayer readPlayer
  obtain ⟨husername, usernameLength⟩ :=
    readOptional_eq_some (fun _ _ _ => VarInt.text_eq_some) readUsername
  obtain ⟨hdata, dataLength⟩ := readOptional_eq_some (fun _ _ _ => VarInt.blob_eq_some) readData
  obtain ⟨hsource, sourceLength⟩ :=
    readOptional_eq_some (fun _ _ _ => readSource_eq_some) readSource
  have hlength : (write ⟨protocolCrc, protocolBuild, clientVersion, clientType, language,
      identityToken, playerId, username, referralData, referralSource⟩).length + b12.length ≤
        (Bytes.ofUInt32 protocolCrc ++ (Bytes.ofUInt32 protocolBuild ++ b2)).length := by
    simp only [write, List.length_append, List.length_cons, List.length_nil]
    simp only [List.length_cons] at versionLength languageLength
    omega
  exact ⟨⟨hversion.1, hlanguage.1, fun text ht => (hidentity text ht).1,
    fun text ht => (husername text ht).1, fun data hd => (hdata data hd).1,
    fun source hs => (hsource source hs).1⟩, ⟨hversion.2, hlanguage.2,
    fun text ht => (hidentity text ht).2, fun text ht => (husername text ht).2,
    fun data hd => (hdata data hd).2, fun source hs => (hsource source hs).2⟩, hlength⟩

/-- **Encoding and decoding agree.**  What is encoded under limits decodes under them, unless
frames may be so long that a length has no spelling.  A frame has no encoding exactly if one of
its fields is over its limit or the whole is.  And whatever spelling a frame was decoded from,
it can be encoded under the same limits, in no more bytes, and decodes to itself again. -/
theorem codec_agrees (limits : ProtocolLimits) :
    (limits.frame < 2 ^ 32 → ∀ (frame : ConnectFrame) (bytes : Bytes),
      encode limits frame = .ok bytes → decode? limits bytes = some frame) ∧
    (∀ frame : ConnectFrame, (∃ e, encode limits frame = .error e) ↔
      ¬ Within limits frame ∨ limits.frame < frame.write.length) ∧
    ∀ (bytes : Bytes) (frame : ConnectFrame), decode? limits bytes = some frame →
      ∃ again, encode limits frame = .ok again ∧ again.length ≤ bytes.length ∧
        decode? limits again = some frame := by
  refine ⟨fun hlimit frame bytes => decode?_of_encode hlimit, fun frame => ?_,
    fun bytes frame hdecode => ?_⟩
  · constructor
    · rintro ⟨e, he⟩
      by_cases hwithin : Within limits frame
      · refine .inr (Nat.lt_of_not_le fun hlength => ?_)
        rw [encode_eq_ok_iff.mpr ⟨hwithin, hlength, rfl⟩] at he
        cases he
      · exact .inl hwithin
    · intro hbreaks
      cases hresult : encode limits frame with
      | error e => exact ⟨e, rfl⟩
      | ok bytes =>
          obtain ⟨hwithin, hlength, -⟩ := encode_eq_ok_iff.mp hresult
          rcases hbreaks with hfield | hlong
          · exact absurd hwithin hfield
          · exact absurd hlong (Nat.not_lt.mpr hlength)
  · unfold decode? at hdecode
    split at hdecode
    · cases hdecode
    · rename_i hfits
      obtain ⟨hwithin, hspell, hlength⟩ := read_eq_some (Reader.whole_eq_some_iff.mp hdecode)
      rw [List.length_nil, Nat.add_zero] at hlength
      have hframe := Nat.le_trans hlength (Nat.not_lt.mp hfits)
      exact ⟨frame.write, encode_eq_ok_iff.mpr ⟨hwithin, hframe, rfl⟩, hlength,
        decode?_write hwithin hspell hframe⟩

/-- The frame of a client that says nothing but a name. -/
def named : ConnectFrame := { username := some "a" }

/-- The same frame with two groups of zeros behind the length of the name. -/
def padded : Bytes := List.replicate 11 0 ++ [0x04, 0x81, 0x80, 0x00, 0x61]

/-- The padded frame loses the two groups when it is written again, and nothing else. -/
theorem codec_agrees_padded :
    ({} : ProtocolLimits).frame < 2 ^ 32 ∧ decode? {} padded = some named ∧
      encode {} named = .ok named.write ∧ named.write.length + 2 = padded.length ∧
      decode? {} named.write = some named := by
  have hlimit : ({} : ProtocolLimits).frame < 2 ^ 32 := by decide
  have hdecode : decode? {} padded = some named := by decide
  obtain ⟨again, hencode, -, -⟩ := (codec_agrees {}).2.2 padded named hdecode
  obtain ⟨-, -, rfl⟩ := encode_eq_ok_iff.mp hencode
  exact ⟨hlimit, hdecode, hencode, by decide, (codec_agrees {}).1 hlimit named _ hencode⟩

end ConnectFrame

end GameGateway
