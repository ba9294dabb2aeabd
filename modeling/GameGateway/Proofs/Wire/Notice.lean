import GameGateway.Proofs.Wire.Envelope
import GameGateway.Wire.Notice

/-!
# Payloads have one spelling

The fields of a payload have one spelling each: identifiers and words of a vocabulary of a
fixed length, names and blobs behind their length.  So each reader is described completely by
what the front of the bytes must be for a value to be read, and the reader of a payload by
going through its fields in order (`read_eq_some_iff` of each payload).

A payload that is written is read as itself, one that is read is written again as the same
bytes, and a blank name stops both (`OneSpelling`, `Notice.payloads_have_one_spelling`).
-/

namespace GameGateway

/-! ## Fields -/

namespace Reader

variable {bytes rest : Bytes}

theorem uuid_eq_some_iff {id : Uuid} :
    uuid bytes = some (id, rest) ↔ bytes = id.bytes ++ rest :=
  ⟨uuid_eq_some, fun h => h ▸ Takes.uuid id rest⟩

theorem sizedBytes_eq_some_iff {blob : Bytes} :
    sizedBytes bytes = some (blob, rest) ↔
      blob.length ≤ Bytes.maxSized ∧ bytes = Bytes.sized blob ++ rest :=
  ⟨fun h => ⟨length_le_of_sizedBytes h, sizedBytes_eq_some h⟩,
    fun ⟨hfits, h⟩ => h ▸ Takes.sizedBytes hfits rest⟩

theorem sizedText_eq_some_iff {text : String} :
    sizedText bytes = some (text, rest) ↔
      Utf8.size text ≤ Bytes.maxSized ∧ bytes = Bytes.sized (Utf8.encode text) ++ rest := by
  simp only [sizedText, bind_eq_some_iff, sizedBytes_eq_some_iff, lift_eq_some_iff,
    Utf8.decode_eq_some_iff]
  constructor
  · rintro ⟨letters, between, ⟨hfits, hbytes⟩, rfl, rfl⟩
    exact ⟨hfits, hbytes⟩
  · rintro ⟨hfits, hbytes⟩
    exact ⟨Utf8.encode text, rest, ⟨hfits, hbytes⟩, rfl, rfl⟩

end Reader

namespace Notice

open Reader (bind_eq_some_iff)

variable {bytes rest : Bytes} {name field : String}

theorem readName_eq_some_iff :
    readName bytes = some (name, rest) ↔ (Text.isBlank name = false ∧
      Utf8.size name ≤ Bytes.maxSized) ∧ bytes = Bytes.sized (Utf8.encode name) ++ rest := by
  simp only [readName, bind_eq_some_iff, Reader.sizedText_eq_some_iff, Reader.require_eq_some_iff,
    Reader.pure_eq_some_iff, Bool.not_eq_true']
  constructor
  · rintro ⟨text, b1, ⟨hfits, hbytes⟩, u, b2, ⟨hblank, rfl⟩, rfl, rfl⟩
    exact ⟨⟨hblank, hfits⟩, hbytes⟩
  · rintro ⟨⟨hblank, hfits⟩, hbytes⟩
    exact ⟨name, rest, ⟨hfits, hbytes⟩, (), rest, ⟨hblank, rfl⟩, rfl, rfl⟩

section Words

variable {α : Type} [WireCode α]

/-- A byte that is looked up in a vocabulary is the code of the word that is found. -/
theorem lookUp_eq_some_iff {β : Type} {word? : UInt8 → Option β} {b : β} {code : UInt8}
    (h : ∀ c, word? c = some b ↔ c = code) :
    (Reader.byte >>= fun c => Reader.lift (word? c)) bytes = some (b, rest) ↔
      bytes = code :: rest := by
  simp only [bind_eq_some_iff, Reader.byte_eq_some_iff, Reader.lift_eq_some_iff, h]
  constructor
  · rintro ⟨c, between, hbytes, rfl, rfl⟩
    exact hbytes
  · intro hbytes
    exact ⟨code, rest, hbytes, rfl, rfl⟩

theorem readCode_eq_some_iff {a : α} :
    readCode α bytes = some (a, rest) ↔ bytes = WireCode.code a :: rest :=
  lookUp_eq_some_iff fun _ => WireCode.ofCode?_eq_some_iff

theorem readOptionalCode_eq_some_iff {a : Option α} :
    readOptionalCode α bytes = some (a, rest) ↔ bytes = WireCode.optionalCode a :: rest :=
  lookUp_eq_some_iff fun _ => WireCode.ofOptionalCode?_eq_some_iff

end Words

theorem named_eq_ok_iff {result : Bytes} :
    named field name bytes = .ok result ↔ Text.isBlank name = false ∧ bytes = result := by
  unfold named
  split
  · simp [*]
  · simp [*]

end Notice

/-! ## Formats -/

/-- The format of a payload.  Payloads that are `Named` can be written; if they also fit the
length fields they are read back, and there are no other bytes that are read as them.  A payload
that is not `Named` is refused in both directions. -/
structure OneSpelling {α : Type} (encode : α → Except WireError Bytes)
    (decode? : Bytes → Option α) (Named Fits : α → Prop) : Prop where
  writable : ∀ a, Named a → ∃ bytes, encode a = .ok bytes
  read_back : ∀ a bytes, Fits a → encode a = .ok bytes → decode? bytes = some a
  written_back : ∀ bytes a, decode? bytes = some a → encode a = .ok bytes
  unique : ∀ bytes other a, decode? bytes = some a → decode? other = some a → other = bytes
  refused : ∀ a, ¬ Named a → (∃ e, encode a = .error e) ∧ ∀ bytes, decode? bytes ≠ some a

/-- A reader that reads the payloads that are named and fit, each from the bytes that are
written for it, belongs to a format with one spelling. -/
theorem OneSpelling.of_read {α : Type} {encode : α → Except WireError Bytes} {read : Reader α}
    {write : α → Bytes} {Named Fits : α → Prop}
    (hencode : ∀ a bytes, encode a = .ok bytes ↔ Named a ∧ write a = bytes)
    (hread : ∀ a bytes rest, read bytes = some (a, rest) ↔
      (Named a ∧ Fits a) ∧ bytes = write a ++ rest) :
    OneSpelling encode read.whole Named Fits := by
  have hdecode : ∀ a bytes, read.whole bytes = some a ↔ (Named a ∧ Fits a) ∧ bytes = write a := by
    intro a bytes
    rw [Reader.whole_eq_some_iff, hread, List.append_nil]
  refine ⟨fun a hnamed => ?_, fun a bytes hfits hwritten => ?_, fun bytes a hbytes => ?_,
    fun bytes other a hbytes hother => ?_, fun a hblank => ⟨?_, fun bytes hbytes => ?_⟩⟩
  · exact ⟨write a, (hencode a _).mpr ⟨hnamed, rfl⟩⟩
  · obtain ⟨hnamed, rfl⟩ := (hencode a bytes).mp hwritten
    exact (hdecode a _).mpr ⟨⟨hnamed, hfits⟩, rfl⟩
  · obtain ⟨⟨hnamed, -⟩, rfl⟩ := (hdecode a bytes).mp hbytes
    exact (hencode a _).mpr ⟨hnamed, rfl⟩
  · rw [((hdecode a bytes).mp hbytes).2, ((hdecode a other).mp hother).2]
  · cases hresult : encode a with
    | error e => exact ⟨e, rfl⟩
    | ok bytes => exact absurd ((hencode a bytes).mp hresult).1 hblank
  · exact hblank ((hdecode a bytes).mp hbytes).1.1

open Reader (bind_eq_some_iff pure_eq_some_iff uuid_eq_some_iff sizedBytes_eq_some_iff)
open Notice (readName_eq_some_iff readCode_eq_some_iff readOptionalCode_eq_some_iff)

namespace TransferRequest

variable {request : TransferRequest} {bytes rest : Bytes}

/-- The request names the backend that the player is to be sent to. -/
def Named (request : TransferRequest) : Prop := Text.isBlank request.target = false

/-- The name and the referral of the request fit their length fields. -/
def Fits (request : TransferRequest) : Prop :=
  Utf8.size request.target ≤ 2 ^ 31 - 1 ∧ request.referral.length ≤ 2 ^ 31 - 1

theorem encode_eq_ok_iff :
    request.encode = .ok bytes ↔ request.Named ∧ request.write = bytes :=
  Notice.named_eq_ok_iff

theorem read_eq_some_iff : read bytes = some (request, rest) ↔
    (request.Named ∧ request.Fits) ∧ bytes = request.write ++ rest := by
  simp only [read, bind_eq_some_iff, uuid_eq_some_iff, readName_eq_some_iff,
    sizedBytes_eq_some_iff, pure_eq_some_iff]
  constructor
  · rintro ⟨correlation, b1, rfl, player, b2, rfl, target, b3, ⟨⟨hnamed, hshort⟩, rfl⟩,
      referral, b4, ⟨hfits, rfl⟩, rfl, rfl⟩
    exact ⟨⟨hnamed, hshort, hfits⟩, by simp [write]⟩
  · rintro ⟨⟨hnamed, hshort, hfits⟩, rfl⟩
    exact ⟨_, _, by simp [write], _, _, rfl, _, _, ⟨⟨hnamed, hshort⟩, rfl⟩, _, _, ⟨hfits, rfl⟩,
      rfl, rfl⟩

/-- A request that can be spelled out reads back if it fits into an envelope. -/
theorem decode?_of_encode (h : request.encode = .ok bytes)
    (hfits : bytes.length ≤ Bytes.maxSized) : decode? bytes = some request := by
  obtain ⟨hnamed, rfl⟩ := encode_eq_ok_iff.mp h
  have hlength : request.write.length = 32 + (4 + Utf8.size request.target) +
      (4 + request.referral.length) := by
    simp [write, Bytes.sized, Utf8.size]
    omega
  have hshort : request.Fits := by
    simp only [Fits, Bytes.maxSized] at hfits ⊢
    omega
  refine Reader.whole_eq_some_iff.mpr (read_eq_some_iff.mpr ⟨⟨hnamed, hshort⟩, ?_⟩)
  rw [List.append_nil]

end TransferRequest

namespace TransferResult

variable {result : TransferResult} {bytes rest : Bytes}

theorem read_eq_some_iff : read bytes = some (result, rest) ↔ bytes = result.encode ++ rest := by
  simp only [read, bind_eq_some_iff, uuid_eq_some_iff, readCode_eq_some_iff,
    readOptionalCode_eq_some_iff, pure_eq_some_iff]
  constructor
  · rintro ⟨correlation, b1, rfl, status, b2, rfl, reason, b3, rfl, rfl, rfl⟩
    simp [encode]
  · rintro rfl
    exact ⟨_, _, List.append_assoc .., _, _, rfl, _, _, rfl, rfl, rfl⟩

/-- An answer to a request reads back. -/
theorem decode?_encode (result : TransferResult) : decode? result.encode = some result := by
  refine Reader.whole_eq_some_iff.mpr (read_eq_some_iff.mpr ?_)
  rw [List.append_nil]

@[simp] theorem length_encode (result : TransferResult) : result.encode.length = 18 := by
  simp [encode]

end TransferResult

namespace ValidationNotice

variable {notice : ValidationNotice} {bytes rest : Bytes}

/-- The notice names the backend it comes from. -/
def Named (notice : ValidationNotice) : Prop := Text.isBlank notice.backend = false

/-- The name in the notice fits its length field. -/
def Fits (notice : ValidationNotice) : Prop := Utf8.size notice.backend ≤ 2 ^ 31 - 1

theorem encode_eq_ok_iff : notice.encode = .ok bytes ↔ notice.Named ∧ notice.write = bytes :=
  Notice.named_eq_ok_iff

theorem read_eq_some_iff : read bytes = some (notice, rest) ↔
    (notice.Named ∧ notice.Fits) ∧ bytes = notice.write ++ rest := by
  simp only [read, bind_eq_some_iff, uuid_eq_some_iff, readName_eq_some_iff, readCode_eq_some_iff,
    readOptionalCode_eq_some_iff, pure_eq_some_iff]
  constructor
  · rintro ⟨player, b1, rfl, backend, b2, ⟨hwell, rfl⟩, outcome, b3, rfl, reason, b4, rfl,
      rfl, rfl⟩
    exact ⟨hwell, by simp [write]⟩
  · rintro ⟨hwell, rfl⟩
    exact ⟨_, _, by simp [write], _, _, ⟨hwell, rfl⟩, _, _, rfl, _, _, rfl, rfl, rfl⟩

end ValidationNotice

namespace StatusNotice

variable {notice : StatusNotice} {bytes rest : Bytes}

/-- The notice names the backend it is about. -/
def Named (notice : StatusNotice) : Prop := Text.isBlank notice.backend = false

/-- The name in the notice fits its length field. -/
def Fits (notice : StatusNotice) : Prop := Utf8.size notice.backend ≤ 2 ^ 31 - 1

theorem encode_eq_ok_iff : notice.encode = .ok bytes ↔ notice.Named ∧ notice.write = bytes :=
  Notice.named_eq_ok_iff

theorem read_eq_some_iff : read bytes = some (notice, rest) ↔
    (notice.Named ∧ notice.Fits) ∧ bytes = notice.write ++ rest := by
  simp only [read, bind_eq_some_iff, readName_eq_some_iff, readCode_eq_some_iff, pure_eq_some_iff]
  constructor
  · rintro ⟨backend, b1, ⟨hwell, rfl⟩, status, b2, rfl, rfl, rfl⟩
    exact ⟨hwell, by simp [write]⟩
  · rintro ⟨hwell, rfl⟩
    exact ⟨_, _, ⟨hwell, List.append_assoc ..⟩, _, _, rfl, rfl, rfl⟩

end StatusNotice

/-- **Every payload has one spelling.**  In each of the four formats a payload that is written
is read as itself if its texts and blobs fit their length fields, and whatever is read is
written again as the same bytes.  Payloads that name no backend are neither written nor read;
an answer to a request names none, and is always written. -/
theorem Notice.payloads_have_one_spelling :
    OneSpelling TransferRequest.encode TransferRequest.decode? TransferRequest.Named
      TransferRequest.Fits ∧
    OneSpelling (fun result => .ok (TransferResult.encode result)) TransferResult.decode?
      (fun _ => True) (fun _ => True) ∧
    OneSpelling ValidationNotice.encode ValidationNotice.decode? ValidationNotice.Named
      ValidationNotice.Fits ∧
    OneSpelling StatusNotice.encode StatusNotice.decode? StatusNotice.Named StatusNotice.Fits := by
  have hencode : ∀ (result : TransferResult) (bytes : Bytes),
      (Except.ok result.encode : Except WireError Bytes) = .ok bytes ↔
        True ∧ result.encode = bytes := by simp
  have hread : ∀ (result : TransferResult) (bytes rest : Bytes),
      TransferResult.read bytes = some (result, rest) ↔
        (True ∧ True) ∧ bytes = result.encode ++ rest := by
    simp [TransferResult.read_eq_some_iff]
  exact ⟨.of_read (fun _ _ => TransferRequest.encode_eq_ok_iff)
      (fun _ _ _ => TransferRequest.read_eq_some_iff),
    .of_read hencode hread,
    .of_read (fun _ _ => ValidationNotice.encode_eq_ok_iff)
      (fun _ _ _ => ValidationNotice.read_eq_some_iff),
    .of_read (fun _ _ => StatusNotice.encode_eq_ok_iff)
      (fun _ _ _ => StatusNotice.read_eq_some_iff)⟩

/-- The status of a backend that has just been started, byte by byte. -/
def Notice.lobbyOnline : Bytes := [0, 0, 0, 5, 0x6c, 0x6f, 0x62, 0x62, 0x79, 1]

/-- A backend by the name of "lobby" is online: these bytes are read so, and written so. -/
theorem Notice.lobby_has_one_spelling :
    StatusNotice.decode? Notice.lobbyOnline = some ⟨"lobby", .online⟩ ∧
      StatusNotice.encode ⟨"lobby", .online⟩ = .ok Notice.lobbyOnline ∧
      (∃ e, StatusNotice.encode ⟨" ", .online⟩ = .error e) := by
  have hdecode : StatusNotice.decode? Notice.lobbyOnline = some ⟨"lobby", .online⟩ := by decide
  have hblank : ¬ StatusNotice.Named ⟨" ", .online⟩ := by
    unfold StatusNotice.Named
    decide
  obtain ⟨-, -, -, hstatus⟩ := Notice.payloads_have_one_spelling
  exact ⟨hdecode, hstatus.written_back _ _ hdecode, (hstatus.refused _ hblank).1⟩

end GameGateway
