import GameGateway.Proofs.Wire.MessagingFrame
import GameGateway.Proofs.Wire.Notice
import GameGateway.Proofs.Wire.Rewriting

/-!
# Nothing is cut off and nothing is added

A byte string that is decoded cannot be cut short and cannot be continued: none of its proper
prefixes and none of its proper extensions is decoded (`Delimited`).

Most formats are read from front to back by readers that are definite: what they have found at
the front of some bytes they find there whatever comes behind it (`Reader.Definite`).  As bytes
that hold a value and nothing else end where such a reader stops, none of them continues another
(`Reader.Definite.delimited`).  For envelopes and their payloads this is part of their having one
spelling (`Reader.Definite.of_spelling`).  Connect frames have several, as their lengths may have
leading zero groups; but readers that run one after the other are definite if each is, and this
does not ask how a part is spelled.

Messaging frames are not read so.  Their tag is found from the end, and bytes that are added move
the cut between body and tag.  But the bodies are delimited by themselves, and the longer
datagram would have to hold a longer body that starts with the shorter one
(`MessagingFrame.delimited`).
-/

namespace GameGateway

variable {α β : Type}

/-- No byte string that is decoded is a proper prefix of another one. -/
structure Delimited (decode? : Bytes → Option α) : Prop where
  no_prefix : ∀ bytes a front, decode? bytes = some a → front <+: bytes → front ≠ bytes →
    decode? front = none
  no_extension : ∀ bytes a longer, decode? bytes = some a → bytes <+: longer → longer ≠ bytes →
    decode? longer = none

/-- It is enough that of two byte strings that are decoded neither continues the other. -/
theorem Delimited.of_append {decode? : Bytes → Option α}
    (h : ∀ bytes more a b, decode? bytes = some a → decode? (bytes ++ more) = some b → more = []) :
    Delimited decode? := by
  constructor
  · rintro bytes a front hbytes ⟨more, rfl⟩ hproper
    refine Option.eq_none_iff_forall_ne_some.mpr fun b hfront => hproper ?_
    rw [h front more b a hfront hbytes, List.append_nil]
  · rintro bytes a longer hbytes ⟨more, rfl⟩ hproper
    refine Option.eq_none_iff_forall_ne_some.mpr fun b hlonger => hproper ?_
    rw [h bytes more a b hbytes hlonger, List.append_nil]

/-! ## Definite readers -/

namespace Reader

/-- What the reader finds at the front of some bytes it finds there whatever comes behind. -/
def Definite (reader : Reader α) : Prop :=
  ∀ ⦃bytes a rest⦄, reader bytes = some (a, rest) →
    ∃ taken, bytes = taken ++ rest ∧ Takes reader taken a

namespace Definite

theorem pure (a : α) : Definite (Pure.pure a) := by
  intro bytes b rest h
  obtain ⟨rfl, rfl⟩ := pure_eq_some_iff.mp h
  exact ⟨[], rfl, .pure a⟩

theorem bind {first : Reader α} {next : α → Reader β} (h : Definite first)
    (h' : ∀ a, Definite (next a)) : Definite (first >>= next) := by
  intro bytes b rest hread
  obtain ⟨a, between, hfirst, hnext⟩ := bind_eq_some_iff.mp hread
  obtain ⟨taken, rfl, htaken⟩ := h hfirst
  obtain ⟨more, rfl, hmore⟩ := h' a hnext
  exact ⟨taken ++ more, (List.append_assoc ..).symm, htaken.bind hmore⟩

theorem map {reader : Reader α} (f : α → β) (h : Definite reader) : Definite (f <$> reader) := by
  rw [map_eq_pure_bind]
  exact h.bind fun a => .pure (f a)

theorem require (condition : Bool) : Definite (Reader.require condition) := by
  intro bytes u rest h
  obtain ⟨hcondition, rfl⟩ := require_eq_some_iff.mp h
  exact ⟨[], rfl, .require hcondition⟩

theorem lift (value : Option α) : Definite (Reader.lift value) := by
  intro bytes a rest h
  obtain ⟨rfl, rfl⟩ := lift_eq_some_iff.mp h
  exact ⟨[], rfl, .lift a⟩

theorem take (n : Nat) : Definite (Reader.take n) := by
  intro bytes taken rest h
  obtain ⟨rfl, rfl⟩ := take_eq_some_iff.mp h
  exact ⟨taken, rfl, .take taken⟩

theorem block (n : Nat) : Definite (Reader.block n) := by
  intro bytes b rest h
  obtain rfl := block_eq_some h
  exact ⟨b.bytes, rfl, .block b⟩

theorem byte : Definite Reader.byte := by
  intro bytes b rest h
  obtain rfl := byte_eq_some_iff.mp h
  exact ⟨[b], rfl, .byte b⟩

theorem uint16 : Definite Reader.uint16 := (take 2).bind fun _ => .pure _

theorem uint32 : Definite Reader.uint32 := (take 4).bind fun _ => .pure _

theorem uuid : Definite Reader.uuid := (block 16).bind fun _ => .pure _

/-- A reader of values with one spelling each is definite. -/
theorem of_spelling {reader : Reader α} {write : α → Bytes} {P : α → Prop}
    (h : ∀ bytes a rest, reader bytes = some (a, rest) ↔ P a ∧ bytes = write a ++ rest) :
    Definite reader := by
  intro bytes a rest hread
  obtain ⟨ha, hbytes⟩ := (h bytes a rest).mp hread
  exact ⟨write a, hbytes, fun behind => (h _ a behind).mpr ⟨ha, rfl⟩⟩

/-- Bytes that hold a value and nothing else end where the reader stops. -/
theorem eq_nil_of_whole_append {reader : Reader α} {bytes more : Bytes} {a b : α}
    (h : Definite reader) (hbytes : reader.whole bytes = some a)
    (hlonger : reader.whole (bytes ++ more) = some b) : more = [] := by
  obtain ⟨taken, hsplit, htaken⟩ := h (whole_eq_some_iff.mp hbytes)
  rw [List.append_nil] at hsplit
  subst hsplit
  have hfront : reader (bytes ++ more) = some (a, more) := htaken more
  rw [whole_eq_some_iff.mp hlonger] at hfront
  cases hfront
  rfl

theorem delimited {reader : Reader α} (h : Definite reader) : Delimited reader.whole :=
  .of_append fun _ _ _ _ => h.eq_nil_of_whole_append

end Definite

end Reader

open Reader (Definite)

/-! ## Numbers in groups -/

namespace VarInt

/-- A scan stops where the last group says so, whether or not the groups are the fewest. -/
theorem scan_append {more n : Nat} {bytes rest : Bytes} (h : scan more bytes = some (n, rest)) :
    ∃ taken, bytes = taken ++ rest ∧ ∀ behind, scan more (taken ++ behind) = some (n, behind) := by
  induction more generalizing n bytes with
  | zero =>
      cases bytes with
      | nil => cases h
      | cons byte tail =>
          rw [scan] at h
          split at h
          · rename_i hlow
            cases h
            exact ⟨[byte], rfl, fun behind => by rw [List.singleton_append, scan, if_pos hlow]⟩
          · cases h
  | succ more ih =>
      cases bytes with
      | nil => cases h
      | cons byte tail =>
          rw [scan] at h
          split at h
          · rename_i hlast
            cases h
            exact ⟨[byte], rfl, fun behind => by rw [List.singleton_append, scan, if_pos hlast]⟩
          · rename_i hmore
            obtain ⟨⟨high, after⟩, hscan, hresult⟩ := Option.map_eq_some_iff.mp h
            cases hresult
            obtain ⟨taken, rfl, htaken⟩ := ih hscan
            refine ⟨byte :: taken, rfl, fun behind => ?_⟩
            rw [List.cons_append, scan, if_neg hmore, htaken behind, Option.map_some]

theorem definite_read : Definite read := by
  intro bytes n rest h
  obtain ⟨⟨value, after⟩, hscan, hresult⟩ := Option.map_eq_some_iff.mp h
  cases hresult
  obtain ⟨taken, rfl, htaken⟩ := scan_append hscan
  refine ⟨taken, rfl, fun behind => ?_⟩
  rw [read, htaken behind, Option.map_some]

theorem definite_blob (max : Nat) : Definite (blob max) :=
  definite_read.bind fun n => (Definite.require _).bind fun _ => .take n.toNat

theorem definite_text (max : Nat) : Definite (text max) :=
  (definite_blob max).bind fun _ => .lift _

end VarInt

/-! ## Connect frames -/

namespace ConnectFrame

theorem definite_readOptional (presence bit : UInt8) {reader : Reader α} (h : Definite reader) :
    Definite (readOptional presence bit reader) := by
  unfold readOptional
  split
  · exact h.map some
  · exact .pure none

theorem definite_readSource (limits : ProtocolLimits) : Definite (readSource limits) :=
  Definite.uint16.bind fun _ => (VarInt.definite_text limits.host).bind fun _ => .pure _

theorem definite_read (limits : ProtocolLimits) : Definite (read limits) := by
  unfold read
  refine Definite.uint32.bind fun protocolCrc => ?_
  refine Definite.uint32.bind fun protocolBuild => ?_
  refine (VarInt.definite_text limits.clientVersion).bind fun clientVersion => ?_
  refine Definite.byte.bind fun clientType => ?_
  refine (VarInt.definite_text limits.language).bind fun language => ?_
  refine Definite.byte.bind fun presence => ?_
  refine (Definite.require _).bind fun _ => ?_
  refine (definite_readOptional presence 0x01 (VarInt.definite_text _)).bind fun identityToken => ?_
  refine (definite_readOptional presence 0x02 Definite.uuid).bind fun playerId => ?_
  refine (definite_readOptional presence 0x04 (VarInt.definite_text _)).bind fun username => ?_
  refine (definite_readOptional presence 0x08 (VarInt.definite_blob _)).bind fun referralData => ?_
  refine (definite_readOptional presence 0x10 (definite_readSource limits)).bind
    fun referralSource => ?_
  exact .pure _

theorem delimited (limits : ProtocolLimits) : Delimited (decode? limits) := by
  have hread : ∀ {bytes frame}, decode? limits bytes = some frame →
      (read limits).whole bytes = some frame := by
    intro bytes frame h
    unfold decode? at h
    split at h
    · cases h
    · exact h
  exact .of_append fun bytes more frame other hbytes hlonger =>
    (definite_read limits).eq_nil_of_whole_append (hread hbytes) (hread hlonger)

end ConnectFrame

/-! ## Messaging frames -/

namespace MessagingFrame

/-- Of two bodies of one kind neither continues the other. -/
theorem body_append {frame other : MessagingFrame} {more : Bytes} (h : frame.Sendable)
    (hother : other.Sendable) (htype : other.typeByte = frame.typeByte)
    (hbody : other.body = frame.body ++ more) : more = [] := by
  have hframe := takes_body h more
  have hsame := takes_body hother []
  rw [List.append_nil, hbody, htype, hframe] at hsame
  cases hsame
  rfl

theorem delimited : Delimited decode? := by
  refine .of_append fun bytes more signed signed' hbytes hlonger => ?_
  obtain ⟨frame, tag⟩ := signed
  obtain ⟨other, tag'⟩ := signed'
  obtain ⟨hframe, rfl⟩ := decode?_eq_some_iff.mp hbytes
  obtain ⟨hother, hspelled⟩ := decode?_eq_some_iff.mp hlonger
  simp only [withTag, signedBytes, List.append_assoc, List.append_cancel_left_eq,
    List.cons_append, List.nil_append, List.cons.injEq, true_and] at hspelled
  obtain ⟨htype, hspelled⟩ := hspelled
  -- Both tags have 32 bytes, so the longer body is longer by as many bytes as were added.
  have hlength : other.body.length = frame.body.length + more.length := by
    have hall := congrArg List.length hspelled
    simp only [List.length_append, tag.length_eq, tag'.length_eq] at hall
    omega
  have hfront : frame.body <+: other.body := by
    refine List.prefix_of_prefix_length_le ?_ (List.prefix_append _ tag'.bytes) (by omega)
    rw [← hspelled]
    exact List.prefix_append _ _
  obtain ⟨added, hbody⟩ := hfront
  obtain rfl := body_append hframe hother htype.symm hbody.symm
  rw [← hbody, List.length_append, List.length_nil] at hlength
  exact List.eq_nil_of_length_eq_zero (by omega)

end MessagingFrame

/-! ## All formats -/

theorem TransferResult.definite_read : Definite TransferResult.read := by
  intro bytes result rest h
  exact ⟨result.encode, read_eq_some_iff.mp h, fun _ => read_eq_some_iff.mpr rfl⟩

/-- **Every format is delimited.**  Of connect frames under whatever limits, of messaging frames,
of envelopes and of each kind of payload it holds that bytes that are decoded are not decoded any
more if some are cut off at the end, or added there. -/
theorem formats_delimited (limits : ProtocolLimits) :
    Delimited (ConnectFrame.decode? limits) ∧ Delimited MessagingFrame.decode? ∧
      Delimited Envelope.decode? ∧ Delimited TransferRequest.decode? ∧
      Delimited TransferResult.decode? ∧ Delimited ValidationNotice.decode? ∧
      Delimited StatusNotice.decode? :=
  ⟨ConnectFrame.delimited limits, MessagingFrame.delimited,
    (Definite.of_spelling fun _ _ _ => Envelope.read_eq_some_iff).delimited,
    (Definite.of_spelling fun _ _ _ => TransferRequest.read_eq_some_iff).delimited,
    TransferResult.definite_read.delimited,
    (Definite.of_spelling fun _ _ _ => ValidationNotice.read_eq_some_iff).delimited,
    (Definite.of_spelling fun _ _ _ => StatusNotice.read_eq_some_iff).delimited⟩

/-- The frame in which the length of the name has leading zero groups is decoded, and cannot be
cut short or continued either. -/
theorem padded_delimited : ConnectFrame.decode? {} ConnectFrame.padded = some ConnectFrame.named ∧
    (∀ front, front <+: ConnectFrame.padded → front ≠ ConnectFrame.padded →
      ConnectFrame.decode? {} front = none) ∧
    ∀ longer, ConnectFrame.padded <+: longer → longer ≠ ConnectFrame.padded →
      ConnectFrame.decode? {} longer = none := by
  have hpadded : ConnectFrame.decode? {} ConnectFrame.padded = some ConnectFrame.named := by decide
  obtain ⟨hconnect, -⟩ := formats_delimited {}
  exact ⟨hpadded, fun front => hconnect.no_prefix _ _ front hpadded,
    fun longer => hconnect.no_extension _ _ longer hpadded⟩

end GameGateway
