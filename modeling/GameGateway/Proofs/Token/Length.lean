import Mathlib.Algebra.GroupWithZero.Nat
import GameGateway.Proofs.Token.Issue

/-!
# How long a token is

A token travels in a part of a frame that has a limit, so its length in bytes matters.  All of
its text is ASCII and three bytes of the payload make four digits
(`Base64Url.length_encodeChars`), and the payload is as long as its claims with a bar between
each two (`Fields.size_join`).  So the length of a token is a function of the lengths of its
claims (`ProxyToken.size_encode`), and does not depend on the secret.
-/

namespace GameGateway

/-! ## Texts in bytes -/

namespace Utf8

theorem size_ofList_append (a b : List Char) :
    size (String.ofList (a ++ b)) = size (String.ofList a) + size (String.ofList b) := by
  rw [size, size, size, encode_ofList, encode_ofList, encode_ofList, List.flatMap_append,
    List.length_append]

/-- An ASCII text has as many bytes as characters. -/
theorem size_ofList_of_ascii {cs : List Char} (h : ∀ c ∈ cs, c.toNat < 128) :
    size (String.ofList cs) = cs.length := by
  rw [size, encode_ofList]
  induction cs with
  | nil => rfl
  | cons c rest ih =>
      obtain ⟨hc, hrest⟩ := List.forall_mem_cons.mp h
      rw [List.flatMap_cons, utf8EncodeChar_eq hc, List.length_append, ih hrest,
        List.length_singleton, List.length_cons]
      omega

theorem size_ofList_toList (text : String) : size (String.ofList text.toList) = size text := by
  rw [String.ofList_toList]

end Utf8

/-- Joined texts are as long as their parts with a delimiter between each two. -/
theorem Fields.size_join {delimiter : Char} (hascii : delimiter.toNat < 128) (first : List Char)
    (rest : List (List Char)) :
    Utf8.size (String.ofList (Fields.join delimiter (first :: rest))) =
      Utf8.size (String.ofList first) +
        (rest.map fun field => 1 + Utf8.size (String.ofList field)).sum := by
  induction rest generalizing first with
  | nil => rfl
  | cons next others ih =>
      have hdelimiter : Utf8.size (String.ofList [delimiter]) = 1 :=
        Utf8.size_ofList_of_ascii (by simpa using hascii)
      calc Utf8.size (String.ofList (Fields.join delimiter (first :: next :: others)))
        _ = Utf8.size (String.ofList
              (first ++ ([delimiter] ++ Fields.join delimiter (next :: others)))) := rfl
        _ = Utf8.size (String.ofList first) + (1 + (Utf8.size (String.ofList next) +
              (others.map fun field => 1 + Utf8.size (String.ofList field)).sum)) := by
          rw [Utf8.size_ofList_append, Utf8.size_ofList_append, hdelimiter, ih next]
        _ = _ := by
          rw [List.map_cons, List.sum_cons]
          omega

/-! ## Digits -/

namespace Base64Url

/-- Three bytes make four digits. -/
theorem length_encodeChars (bytes : Bytes) :
    (encodeChars bytes).length = (4 * bytes.length + 2) / 3 := by
  induction bytes using encodeChars.induct with
  | case1 => rfl
  | case2 a => simp [encodeChars]
  | case3 a b => simp [encodeChars]
  | case4 a b c rest ih =>
      simp only [encodeChars, List.length_cons, ih]
      omega

theorem size_encodeChars (bytes : Bytes) :
    Utf8.size (String.ofList (encodeChars bytes)) = (4 * bytes.length + 2) / 3 := by
  rw [Utf8.size_ofList_of_ascii (forall_mem_encodeChars (by decide) bytes), length_encodeChars]

end Base64Url

theorem Uuid.size_toChars (id : Uuid) : Utf8.size (String.ofList id.toChars) = 36 := by
  have hascii : ∀ c ∈ id.toChars, c.toNat < 128 :=
    Uuid.forall_mem_toChars (by decide) (by decide) id
  rw [Utf8.size_ofList_of_ascii hascii, Uuid.toChars]
  simp [Hex.length_encode]

namespace Decimal

theorem toNat_lt_of_isDigit {c : Char} (h : c.isDigit = true) : c.toNat < 128 := by
  simp only [Char.isDigit, Bool.and_eq_true, decide_eq_true_eq] at h
  exact Nat.lt_of_le_of_lt (UInt32.le_iff_toNat_le.mp h.2) (by decide)

theorem size_ofUInt32 (n : UInt32) :
    Utf8.size (String.ofList (ofUInt32 n)) = (ofUInt32 n).length :=
  Utf8.size_ofList_of_ascii fun _ hc => toNat_lt_of_isDigit (isDigit_of_mem_toDigits hc)

theorem size_ofMillis (t : Millis) :
    Utf8.size (String.ofList (ofMillis t)) = (ofMillis t).length :=
  Utf8.size_ofList_of_ascii
    (forall_mem_ofMillis (fun _ hc => toNat_lt_of_isDigit hc) (by decide) t)

/-- No instant from the epoch on has more than nineteen digits. -/
theorem length_ofMillis_le {t : Millis} (h : 0 ≤ t) : (ofMillis t).length ≤ 19 := by
  have hnonneg : 0 ≤ t.toInt := Int64.le_iff_toInt_le.mp h
  have hmax := Int64.toInt_lt t
  unfold ofMillis
  split
  · rename_i n hn
    have hnat : t.toInt = (n : Int) := hn
    rw [Nat.length_toDigits_le_iff (by decide) (by decide)]
    omega
  · omega

end Decimal

/-! ## Tokens -/

namespace SignedPayload

/-- A text has two dots, and the digits of the payload and of the signature. -/
theorem size_text (kind : TokenKind) (signed : SignedPayload) :
    Utf8.size (signed.text kind) = Utf8.size kind.tag + 2 +
      (4 * signed.payload.length + 2) / 3 + (4 * signed.signature.length + 2) / 3 := by
  rw [text, shown, Fields.size_join (by decide), Utf8.size_ofList_toList]
  simp only [List.map_cons, List.map_nil, List.sum_cons, List.sum_nil,
    Base64Url.size_encodeChars]
  omega

end SignedPayload

namespace ProxyToken

/-- The payload has eight claims with seven bars between them. -/
theorem length_payload (token : ProxyToken) :
    token.payload.length = 43 + (Decimal.ofUInt32 token.claims.version).length +
      Utf8.size token.claims.target + (Decimal.ofMillis token.claims.issuedAt).length +
      (Decimal.ofMillis token.claims.expiresAt).length +
      Utf8.size (token.claims.clientCert.getD "") + Utf8.size (token.claims.proxyCert.getD "") +
      Utf8.size (token.claims.nonce.getD "") := by
  rw [payload]
  change Utf8.size (String.ofList (Fields.join _ _)) = _
  rw [Fields.size_join (by decide), Decimal.size_ofUInt32]
  simp only [List.map_cons, List.map_nil, List.sum_cons, List.sum_nil, Uuid.size_toChars,
    Decimal.size_ofMillis, Claims.ofOptional, Utf8.size_ofList_toList]
  omega

/-- The length of a token's text. -/
theorem size_encode (token : ProxyToken) (secret : Bytes) :
    Utf8.size (token.encode secret) = 47 + (4 * token.payload.length + 2) / 3 := by
  have htag : Utf8.size TokenKind.proxy.tag = 2 := by decide
  have hsignature : (SignedPayload.sign secret token.payload).signature.length = 32 :=
    (Hmac.sign secret token.payload).length_eq
  rw [encode, SignedPayload.size_text, htag, hsignature]
  change 2 + 2 + (4 * token.payload.length + 2) / 3 + (4 * 32 + 2) / 3 = _
  omega

end ProxyToken

end GameGateway
