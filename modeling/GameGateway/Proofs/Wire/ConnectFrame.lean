import Mathlib.Algebra.Group.Nat.Defs
import GameGateway.Proofs.Chains
import GameGateway.Wire.ConnectFrame

/-!
# Connect frames read back

A reader takes a value off some bytes if it finds the value at the front of every byte
string that starts with them and leaves the rest alone.  Readers that run one after
the other take their values off the bytes one after the other (`Takes.bind`), so each
reader is set against its writer by itself, and a frame against its reader by going
through its parts in order.

What is encoded under limits is within them, so it decodes under the same limits to
the frame it was (`ConnectFrame.decode?_of_encode`).
-/

namespace GameGateway

namespace Reader

variable {α β : Type}

/-- The reader finds the value in the bytes, whatever comes behind them. -/
def Takes (reader : Reader α) (bytes : Bytes) (value : α) : Prop :=
  ∀ rest, reader (bytes ++ rest) = some (value, rest)

namespace Takes

theorem pure (a : α) : Takes (Pure.pure a) [] a := fun _ => rfl

theorem bind {first : Reader α} {next : α → Reader β} {bytes more : Bytes} {a : α} {b : β}
    (h : Takes first bytes a) (h' : Takes (next a) more b) :
    Takes (first >>= next) (bytes ++ more) b := by
  intro rest
  rw [List.append_assoc]
  exact Reader.bind_eq_some_iff.mpr ⟨a, more ++ rest, h _, h' _⟩

theorem bind_pure {reader : Reader α} {bytes : Bytes} {a : α} (f : α → β)
    (h : Takes reader bytes a) :
    Takes (reader >>= fun x => Pure.pure (f x)) bytes (f a) := fun rest =>
  Reader.bind_eq_some_iff.mpr ⟨a, rest, h rest, rfl⟩

theorem map {reader : Reader α} {bytes : Bytes} {a : α} (f : α → β) (h : Takes reader bytes a) :
    Takes (f <$> reader) bytes (f a) := by
  intro rest
  have hread := h rest
  simp only [Functor.map, StateT.map, hread]
  rfl

theorem require {condition : Bool} (h : condition = true) :
    Takes (Reader.require condition) [] () := by
  intro rest
  rw [Reader.require, if_pos h]
  rfl

theorem lift (a : α) : Takes (Reader.lift (some a)) [] a := fun _ => rfl

theorem take (bytes : Bytes) : Takes (Reader.take bytes.length) bytes bytes := by
  intro rest
  simp [Reader.take]

theorem byte (b : UInt8) : Takes Reader.byte [b] b := fun _ => rfl

theorem take_of_length {bytes : Bytes} {n : Nat} (h : bytes.length = n) :
    Takes (Reader.take n) bytes bytes := by
  subst h
  exact take bytes

/-- A number of a fixed width reads back, whatever is made of it. -/
theorem littleEndian {width n : Nat} (h : n < Nat.pow 256 width) (f : Nat → α) :
    Takes (Reader.take width >>= fun bytes => Pure.pure (f (Bytes.ofLittleEndian bytes)))
      (Bytes.littleEndian width n) (f n) := by
  have htake := take_of_length (Bytes.length_littleEndian width n)
  have hread := htake.bind_pure fun bytes => f (Bytes.ofLittleEndian bytes)
  rwa [Bytes.ofLittleEndian_littleEndian h] at hread

theorem uint16 (n : UInt16) : Takes Reader.uint16 (Bytes.ofUInt16 n) n := by
  have hfits : n.toNat < Nat.pow 256 2 := n.toNat_lt_size
  have h := littleEndian hfits UInt16.ofNat
  rwa [UInt16.ofNat_toNat] at h

theorem uint32 (n : UInt32) : Takes Reader.uint32 (Bytes.ofUInt32 n) n := by
  have hfits : n.toNat < Nat.pow 256 4 := n.toNat_lt_size
  have h := littleEndian hfits UInt32.ofNat
  rwa [UInt32.ofNat_toNat] at h

theorem block {n : Nat} (b : Block n) : Takes (Reader.block n) b.bytes b := by
  intro rest
  have hlength : n ≤ (b.bytes ++ rest).length := by
    rw [List.length_append, b.length_eq]
    exact Nat.le_add_right n _
  have htake : (b.bytes ++ rest).take n = b.bytes := List.take_left' b.length_eq
  have hdrop : (b.bytes ++ rest).drop n = rest := List.drop_left' b.length_eq
  rw [Reader.block, dif_pos hlength, hdrop]
  exact congrArg (fun block => some (block, rest)) (Block.ext htake)

theorem uuid (id : Uuid) : Takes Reader.uuid id.bytes id :=
  (block id.octets).bind_pure Uuid.mk

end Takes

theorem whole_of_takes {reader : Reader α} {bytes : Bytes} {a : α} (h : Takes reader bytes a) :
    reader.whole bytes = some a := by
  rw [whole_eq_some_iff]
  have hread := h []
  rwa [List.append_nil] at hread

end Reader

/-! ## Numbers, blobs and texts -/

namespace VarInt

open Reader (Takes)

theorem scan_groups {more n : Nat} (h : n < 2 ^ (7 * more + 4)) (rest : Bytes) :
    scan more (groups more n ++ rest) = some (n, rest) := by
  induction more generalizing n with
  | zero =>
      have hbyte : (UInt8.ofNat n).toNat = n := by
        rw [UInt8.toNat_ofNat']
        omega
      have hlow : UInt8.ofNat n < 16 := by
        rw [UInt8.lt_iff_toNat_lt, hbyte]
        exact h
      rw [groups, List.singleton_append, scan, if_pos hlow, hbyte]
  | succ more ih =>
      by_cases hlast : n < 128
      · have hbyte : (UInt8.ofNat n).toNat = n := by
          rw [UInt8.toNat_ofNat']
          omega
        have hlow : UInt8.ofNat n < 128 := by
          rw [UInt8.lt_iff_toNat_lt, hbyte]
          exact hlast
        rw [groups, if_pos hlast, List.singleton_append, scan, if_pos hlow, hbyte]
      · have hbyte : (UInt8.ofNat (n % 128 + 128)).toNat = n % 128 + 128 := by
          rw [UInt8.toNat_ofNat']
          omega
        have hhigh : ¬ UInt8.ofNat (n % 128 + 128) < 128 := by
          rw [UInt8.lt_iff_toNat_lt, hbyte]
          exact Nat.not_lt.mpr (Nat.le_add_left 128 _)
        have hdiv : n / 128 < 2 ^ (7 * more + 4) := by
          have hpow : 2 ^ (7 * (more + 1) + 4) = 2 ^ (7 * more + 4) * 128 := by
            rw [show 7 * (more + 1) + 4 = (7 * more + 4) + 7 by omega, Nat.pow_add]
          omega
        have hsum : n % 128 + 128 - 128 + 128 * (n / 128) = n := by omega
        rw [groups, if_neg hlast, List.cons_append, scan, if_neg hhigh, ih hdiv, Option.map_some,
          hbyte]
        dsimp only
        rw [hsum]

theorem takes_read (n : UInt32) : Takes read (write n) n := by
  intro rest
  rw [read, write, scan_groups n.toNat_lt rest, Option.map_some]
  dsimp only
  rw [UInt32.ofNat_toNat]

theorem takes_blob {max : Nat} {bytes : Bytes} (hmax : bytes.length ≤ max)
    (hsize : bytes.length < 2 ^ 32) : Takes (blob max) (writeBlob bytes) bytes := by
  have hlength : (UInt32.ofNat bytes.length).toNat = bytes.length := by
    rw [UInt32.toNat_ofNat']
    exact Nat.mod_eq_of_lt hsize
  have hrequire : decide ((UInt32.ofNat bytes.length).toNat ≤ max) = true := by
    rw [hlength]
    exact decide_eq_true hmax
  have htake : Takes (Reader.take (UInt32.ofNat bytes.length).toNat) bytes bytes := by
    rw [hlength]
    exact Takes.take bytes
  exact (takes_read (UInt32.ofNat bytes.length)).bind ((Takes.require hrequire).bind htake)

theorem takes_text {max : Nat} {value : String} (hmax : Utf8.size value ≤ max)
    (hsize : Utf8.size value < 2 ^ 32) : Takes (text max) (writeText value) value := by
  have hlift : Takes (Reader.lift (Utf8.decode (Utf8.encode value))) [] value := by
    rw [Utf8.decode_encode]
    exact Takes.lift value
  have h : Takes (blob max >>= fun bytes => Reader.lift (Utf8.decode bytes))
      (writeBlob (Utf8.encode value) ++ []) value := (takes_blob hmax hsize).bind hlift
  rwa [List.append_nil] at h

theorem length_le_length_writeBlob (bytes : Bytes) : bytes.length ≤ (writeBlob bytes).length := by
  rw [writeBlob, List.length_append]
  omega

end VarInt

/-! ## Frames -/

namespace ConnectFrame

open Reader (Takes)

theorem takes_readOptional {α : Type} {presence bit : UInt8} {reader : Reader α}
    {write : α → Bytes} {part : Option α} (hflag : presence &&& bit ≠ 0 ↔ part.isSome = true)
    (hpart : ∀ a, part = some a → Takes reader (write a) a) :
    Takes (readOptional presence bit reader) (writeOptional write part) part := by
  unfold readOptional
  cases part with
  | none =>
      rw [if_neg (mt hflag.mp (by simp))]
      exact Takes.pure none
  | some a =>
      rw [if_pos (hflag.mpr rfl)]
      exact (hpart a rfl).map some

theorem takes_readSource {limits : ProtocolLimits} {source : HostAddress}
    (hmax : Utf8.size source.host ≤ limits.host) (hsize : Utf8.size source.host < 2 ^ 32) :
    Takes (readSource limits) (writeSource source) source := by
  have hhost : Takes (VarInt.text limits.host >>= fun host => pure ⟨host, source.number⟩)
      (VarInt.writeText source.host) source :=
    (VarInt.takes_text hmax hsize).bind_pure fun host => HostAddress.mk host source.number
  exact (Takes.uint16 source.number).bind hhost

/-- Which optional parts follow can be told from their flags. -/
theorem presence_eq (frame : ConnectFrame) :
    frame.presence < 0x20 ∧
    (frame.presence &&& 0x01 ≠ 0 ↔ frame.identityToken.isSome = true) ∧
    (frame.presence &&& 0x02 ≠ 0 ↔ frame.playerId.isSome = true) ∧
    (frame.presence &&& 0x04 ≠ 0 ↔ frame.username.isSome = true) ∧
    (frame.presence &&& 0x08 ≠ 0 ↔ frame.referralData.isSome = true) ∧
    (frame.presence &&& 0x10 ≠ 0 ↔ frame.referralSource.isSome = true) := by
  simp only [presence, flag]
  generalize frame.identityToken.isSome = a
  generalize frame.playerId.isSome = b
  generalize frame.username.isSome = c
  generalize frame.referralData.isSome = d
  generalize frame.referralSource.isSome = e
  revert a b c d e
  decide

theorem checkLength_eq_ok_iff {field : String} {length max : Nat} :
    checkLength field length max = .ok () ↔ length ≤ max := by
  simp [checkLength]

theorem checkOptional_eq_ok_iff {field : String} {length : Option Nat} {max : Nat} :
    checkOptional field length max = .ok () ↔ ∀ n, length = some n → n ≤ max := by
  cases length with
  | none => simp [checkOptional]
  | some n => simp [checkOptional, checkLength_eq_ok_iff]

/-- The fields of a frame are within their limits. -/
structure Within (limits : ProtocolLimits) (frame : ConnectFrame) : Prop where
  clientVersion : Utf8.size frame.clientVersion ≤ limits.clientVersion
  language : Utf8.size frame.language ≤ limits.language
  identityToken : ∀ text, frame.identityToken = some text → Utf8.size text ≤ limits.identityToken
  username : ∀ text, frame.username = some text → Utf8.size text ≤ limits.username
  referralData : ∀ data, frame.referralData = some data → data.length ≤ limits.referralData
  referralSource : ∀ source, frame.referralSource = some source →
    Utf8.size source.host ≤ limits.host

theorem checkFields_eq_ok_iff {limits : ProtocolLimits} {frame : ConnectFrame} :
    checkFields limits frame = .ok () ↔ Within limits frame := by
  simp only [checkFields, bind_unit_eq_ok_iff, checkLength_eq_ok_iff, checkOptional_eq_ok_iff,
    Option.map_eq_some_iff]
  constructor
  · rintro ⟨hversion, hlanguage, hidentity, husername, hdata, hsource⟩
    exact ⟨hversion, hlanguage, fun text ht => hidentity _ ⟨text, ht, rfl⟩,
      fun text ht => husername _ ⟨text, ht, rfl⟩, fun data hd => hdata _ ⟨data, hd, rfl⟩,
      fun source hs => hsource _ ⟨source, hs, rfl⟩⟩
  · rintro ⟨hversion, hlanguage, hidentity, husername, hdata, hsource⟩
    refine ⟨hversion, hlanguage, ?_, ?_, ?_, ?_⟩
    · rintro n ⟨text, ht, rfl⟩
      exact hidentity text ht
    · rintro n ⟨text, ht, rfl⟩
      exact husername text ht
    · rintro n ⟨data, hd, rfl⟩
      exact hdata data hd
    · rintro n ⟨source, hs, rfl⟩
      exact hsource source hs

/-- The limits that lengths themselves set: longer parts than these have no spelling. -/
def spellable : ProtocolLimits where
  clientVersion := 0xffffffff
  language := 0xffffffff
  identityToken := 0xffffffff
  username := 0xffffffff
  referralData := 0xffffffff
  host := 0xffffffff
  frame := 0xffffffff

/-- The parts of a frame are no longer than the frame. -/
theorem within_spellable {frame : ConnectFrame} (h : frame.write.length < 2 ^ 32) :
    Within spellable frame := by
  have hsize : ∀ text : String, Utf8.size text ≤ (VarInt.writeText text).length := fun text =>
    VarInt.length_le_length_writeBlob _
  simp only [write, List.length_append] at h
  refine ⟨?_, ?_, fun text ht => ?_, fun text ht => ?_, fun data hd => ?_, fun source hs => ?_⟩
  · have := hsize frame.clientVersion
    simp only [spellable]
    omega
  · have := hsize frame.language
    simp only [spellable]
    omega
  · have := hsize text
    simp only [ht, writeOptional, spellable] at h ⊢
    omega
  · have := hsize text
    simp only [ht, writeOptional, spellable] at h ⊢
    omega
  · have := VarInt.length_le_length_writeBlob data
    simp only [hd, writeOptional, spellable] at h ⊢
    omega
  · have := hsize source.host
    simp only [hs, writeOptional, writeSource, List.length_append, spellable] at h ⊢
    omega

theorem takes_read {limits : ProtocolLimits} {frame : ConnectFrame} (h : Within limits frame)
    (hspell : Within spellable frame) : Takes (read limits) frame.write frame := by
  obtain ⟨hknown, hidentityFlag, hplayerFlag, husernameFlag, hdataFlag, hsourceFlag⟩ :=
    frame.presence_eq
  have hversion := VarInt.takes_text h.clientVersion (Nat.lt_succ_of_le hspell.clientVersion)
  have hlanguage := VarInt.takes_text h.language (Nat.lt_succ_of_le hspell.language)
  have hidentity := takes_readOptional hidentityFlag fun text ht =>
    VarInt.takes_text (h.identityToken text ht) (Nat.lt_succ_of_le (hspell.identityToken text ht))
  have hplayer := takes_readOptional hplayerFlag fun player _ => Takes.uuid player
  have husername := takes_readOptional husernameFlag fun text ht =>
    VarInt.takes_text (h.username text ht) (Nat.lt_succ_of_le (hspell.username text ht))
  have hdata := takes_readOptional hdataFlag fun data hd =>
    VarInt.takes_blob (h.referralData data hd) (Nat.lt_succ_of_le (hspell.referralData data hd))
  have hsource := takes_readOptional hsourceFlag fun source hs =>
    takes_readSource (h.referralSource source hs)
      (Nat.lt_succ_of_le (hspell.referralSource source hs))
  -- The parts in the order in which the reader asks for them.
  have hwrite : frame.write = Bytes.ofUInt32 frame.protocolCrc ++
      (Bytes.ofUInt32 frame.protocolBuild ++ (VarInt.writeText frame.clientVersion ++
      ([frame.clientType] ++ (VarInt.writeText frame.language ++ ([frame.presence] ++ ([] ++
      (writeOptional VarInt.writeText frame.identityToken ++
      (writeOptional Uuid.bytes frame.playerId ++
      (writeOptional VarInt.writeText frame.username ++
      (writeOptional VarInt.writeBlob frame.referralData ++
      (writeOptional writeSource frame.referralSource ++ []))))))))))) := by
    simp [write]
  rw [hwrite]
  unfold read
  refine (Takes.uint32 frame.protocolCrc).bind ?_
  refine (Takes.uint32 frame.protocolBuild).bind ?_
  refine hversion.bind ?_
  refine (Takes.byte frame.clientType).bind ?_
  refine hlanguage.bind ?_
  refine (Takes.byte frame.presence).bind ?_
  refine (Takes.require (decide_eq_true hknown)).bind ?_
  refine hidentity.bind ?_
  refine hplayer.bind ?_
  refine husername.bind ?_
  refine hdata.bind ?_
  refine hsource.bind ?_
  exact Takes.pure frame

/-- A frame has an encoding exactly if its fields are within their limits and so is the whole. -/
theorem encode_eq_ok_iff {limits : ProtocolLimits} {frame : ConnectFrame} {bytes : Bytes} :
    encode limits frame = .ok bytes ↔
      Within limits frame ∧ frame.write.length ≤ limits.frame ∧ frame.write = bytes := by
  rw [encode, bind_unit_eq_ok_iff, checkFields_eq_ok_iff]
  refine and_congr_right fun _ => ?_
  dsimp only
  by_cases hlong : limits.frame < frame.write.length
  · rw [if_pos hlong]
    exact ⟨fun h => absurd h throw_bind_ne_ok, fun h => absurd h.1 (Nat.not_le.mpr hlong)⟩
  · rw [if_neg hlong]
    constructor
    · intro h
      cases h
      exact ⟨Nat.not_lt.mp hlong, rfl⟩
    · rintro ⟨-, rfl⟩
      rfl

theorem decode?_write {limits : ProtocolLimits} {frame : ConnectFrame} (h : Within limits frame)
    (hspell : Within spellable frame) (hlength : frame.write.length ≤ limits.frame) :
    decode? limits frame.write = some frame := by
  rw [decode?, if_neg (Nat.not_lt.mpr hlength)]
  exact Reader.whole_of_takes (takes_read h hspell)

/-- What is encoded under limits decodes under them. -/
theorem decode?_of_encode {limits : ProtocolLimits} {frame : ConnectFrame} {bytes : Bytes}
    (hlimit : limits.frame < 2 ^ 32) (h : encode limits frame = .ok bytes) :
    decode? limits bytes = some frame := by
  obtain ⟨hwithin, hlength, rfl⟩ := encode_eq_ok_iff.mp h
  exact decode?_write hwithin (within_spellable (Nat.lt_of_le_of_lt hlength hlimit)) hlength

end ConnectFrame

end GameGateway
