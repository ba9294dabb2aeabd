import GameGateway.Bytes

/-!
# Text as bytes

Texts travel as UTF-8.  `decode_eq_some_iff` says that a byte string decodes to a
text exactly when it is that text's encoding, so no two byte strings decode to
the same text.
-/

namespace GameGateway.Utf8

/-- The UTF-8 bytes of a text. -/
def encode (text : String) : Bytes :=
  text.toByteArray.data.toList

/-- The text that the bytes spell, or `none` if they are not well-formed UTF-8. -/
def decode (bytes : Bytes) : Option String :=
  String.fromUTF8? ⟨bytes.toArray⟩

/-- Length of a text in bytes, the measure in which every limit on text is stated. -/
def size (text : String) : Nat :=
  (encode text).length

theorem decode_encode (text : String) : decode (encode text) = some text := by
  have h : (⟨text.toByteArray.data.toList.toArray⟩ : ByteArray) = text.toByteArray := by
    simp
  simp only [decode, encode, h, String.fromUTF8?, text.isValidUTF8, ↓reduceDIte]
  rfl

theorem encode_of_decode {bytes : Bytes} {text : String} (h : decode bytes = some text) :
    bytes = encode text := by
  simp only [decode, String.fromUTF8?] at h
  split at h
  · cases h
    simp [encode, String.fromUTF8]
  · cases h

theorem decode_eq_some_iff {bytes : Bytes} {text : String} :
    decode bytes = some text ↔ bytes = encode text :=
  ⟨encode_of_decode, fun h => h ▸ decode_encode text⟩

theorem encode_inj {a b : String} : encode a = encode b ↔ a = b := by
  constructor
  · intro h
    have := decode_encode a
    rw [h, decode_encode b] at this
    exact (Option.some.inj this).symm
  · exact congrArg encode

end GameGateway.Utf8
