import GameGateway.Proofs.Token.Issue
import GameGateway.Token.TransferToken

/-!
# What reads as a token

Which texts are those of signed payloads, and which payloads spell claims.  The text of a
signed payload is the only one that reads as that payload
(`SignedPayload.ofText?_eq_ok_iff`), because base64 has one spelling and a text is cut at its
dots in one way.  Claims have more than one spelling: `SpelledBy` says which payloads read
as given claims, and leaves open how numbers and identifiers are written.

An optional claim is absent when its field is empty, so what reads back is never the empty
text.
-/

namespace GameGateway

/-! ## Cutting a text -/

namespace Fields

variable {α : Type} [DecidableEq α] {delimiter : α}

theorem notMem_of_mem_split {items : List α} :
    ∀ field ∈ split delimiter items, delimiter ∉ field := by
  induction items with
  | nil => simp [split]
  | cons a rest ih =>
      unfold split
      by_cases ha : a = delimiter
      · rw [if_pos ha]
        exact List.forall_mem_cons.mpr ⟨List.not_mem_nil, ih⟩
      rw [if_neg ha]
      cases hrest : split delimiter rest with
      | nil => exact absurd hrest (split_ne_nil delimiter rest)
      | cons field fields =>
          rw [hrest] at ih
          obtain ⟨hfield, hfields⟩ := List.forall_mem_cons.mp ih
          refine List.forall_mem_cons.mpr ⟨?_, hfields⟩
          intro hmem
          rcases List.mem_cons.mp hmem with heq | hmem
          · exact ha heq.symm
          · exact hfield hmem

/-- There is one way to cut a text at all its delimiters. -/
theorem split_eq_iff {items : List α} {fields : List (List α)} :
    split delimiter items = fields ↔
      fields ≠ [] ∧ items = join delimiter fields ∧ ∀ field ∈ fields, delimiter ∉ field := by
  constructor
  · rintro rfl
    exact ⟨split_ne_nil delimiter items, (join_split delimiter items).symm, notMem_of_mem_split⟩
  · rintro ⟨hne, rfl, hfields⟩
    exact split_join delimiter hne hfields

end Fields

/-! ## Texts -/

namespace SignedPayload

variable {kind : TokenKind} {text : String} {signed : SignedPayload}

/-- The text is that of the signed payload, and there is something in the payload. -/
def ShownIn (kind : TokenKind) (text : String) (signed : SignedPayload) : Prop :=
  signed.payload ≠ [] ∧ text = signed.text kind

/-- What is read behind a word is the one text in which it is shown; behind a word with a dot
in it nothing is read. -/
theorem readBehind?_eq_ok_iff {word : String} : readBehind? word text = .ok signed ↔
    '.' ∉ word.toList ∧ signed.payload ≠ [] ∧ text = signed.shown word := by
  constructor
  · intro h
    unfold readBehind? at h
    split at h
    · rename_i head payloadPart signaturePart hsplit
      obtain ⟨-, htext, hdot⟩ := Fields.split_eq_iff.mp hsplit
      split at h
      · cases h
      rename_i hhead
      have hhead : head = word.toList := Decidable.not_not.mp hhead
      split at h
      · cases h
      · cases h
      rename_i payload hne hpayload
      split at h
      · cases h
      rename_i signature hsignature
      cases h
      refine ⟨hhead ▸ hdot head (by simp), hne, ?_⟩
      rw [shown, ← Base64Url.decodeChars_eq_some_iff.mp hpayload,
        ← Base64Url.decodeChars_eq_some_iff.mp hsignature, ← hhead, ← htext, String.ofList_toList]
    · cases h
  · rintro ⟨hword, hne, rfl⟩
    exact readBehind?_shown hword hne

theorem ofText?_eq_ok_iff : ofText? kind text = .ok signed ↔ signed.ShownIn kind text := by
  constructor
  · intro h
    exact (readBehind?_eq_ok_iff.mp h).2
  · rintro ⟨hne, rfl⟩
    exact ofText?_text hne

theorem ShownIn.unique {other : SignedPayload} (h : signed.ShownIn kind text)
    (hother : other.ShownIn kind text) : other = signed := by
  have hread := ofText?_eq_ok_iff.mpr h
  rw [ofText?_eq_ok_iff.mpr hother] at hread
  cases hread
  rfl

/-- The signature is the tag of the payload under one of the secrets. -/
def SignedUnder (secrets : List Bytes) (signed : SignedPayload) : Prop :=
  ∃ secret ∈ secrets, signed.signature = (Hmac.sign secret signed.payload).bytes

theorem signedByAny_eq_true_iff {secrets : List Bytes} :
    signed.signedByAny secrets = true ↔ signed.SignedUnder secrets := by
  simp only [signedByAny, SignedUnder, List.any_eq_true, Hmac.verify_eq_true_iff]

end SignedPayload

/-! ## Payloads -/

namespace Claims

/-- The payload is made of the fields, with a bar between each two and none inside. -/
def Joined (fields : List (List Char)) (payload : Bytes) : Prop :=
  payload = join fields ∧ ∀ field ∈ fields, delimiter ∉ field

theorem split?_eq_some_iff {payload : Bytes} {fields : List (List Char)} :
    split? payload = some fields ↔ fields ≠ [] ∧ Joined fields payload := by
  constructor
  · intro h
    obtain ⟨text, htext, hsplit⟩ := Option.map_eq_some_iff.mp h
    obtain ⟨hne, hjoin, hfields⟩ := Fields.split_eq_iff.mp hsplit
    refine ⟨hne, ?_, hfields⟩
    rw [join, ← hjoin, String.ofList_toList, ← Utf8.decode_eq_some_iff, htext]
  · rintro ⟨hne, rfl, hfields⟩
    exact split?_join hne hfields

theorem optional_eq_iff {field : List Char} {value : Option String} :
    optional field = value ↔ field = ofOptional value ∧ value ≠ some "" := by
  constructor
  · rintro rfl
    cases field with
    | nil => simp [optional, ofOptional]
    | cons c rest =>
        refine ⟨by simp [optional, ofOptional], fun hempty => ?_⟩
        have hchars := congrArg String.toList (Option.some.inj hempty)
        simp at hchars
  · rintro ⟨rfl, hne⟩
    rw [optional_ofOptional]
    cases value with
    | none => rfl
    | some text => simpa [Option.filter] using hne

/-- The fields of the five claims with which tokens of both kinds begin.  Numbers and
identifiers may be spelled in any way that their readers take. -/
def Heads (version : UInt32) (player : Uuid) (target : String) (issuedAt expiresAt : Millis)
    (fields : List (List Char)) : Prop :=
  ∃ v p i e, fields = [v, p, target.toList, i, e] ∧ Decimal.uint32? v = some version ∧
    Uuid.ofChars? p = some player ∧ Decimal.millis? i = some issuedAt ∧
    Decimal.millis? e = some expiresAt

end Claims

/-- The payload spells the claims: a field for each, an empty one for a claim that is absent. -/
structure ProxyClaims.SpelledBy (payload : Bytes) (claims : ProxyClaims) : Prop where
  fields : ∃ heads, Claims.Heads claims.version claims.player claims.target claims.issuedAt
      claims.expiresAt heads ∧
    Claims.Joined (heads ++ [Claims.ofOptional claims.clientCert,
      Claims.ofOptional claims.proxyCert, Claims.ofOptional claims.nonce]) payload
  clientCert : claims.clientCert ≠ some ""
  proxyCert : claims.proxyCert ≠ some ""
  nonce : claims.nonce ≠ some ""

/-- The payload spells the claims: a field for each. -/
structure TransferClaims.SpelledBy (payload : Bytes) (claims : TransferClaims) : Prop where
  fields : ∃ heads, Claims.Heads claims.version claims.player claims.target claims.issuedAt
    claims.expiresAt heads ∧ Claims.Joined heads payload

namespace ProxyToken

theorem claims?_eq_some_iff {payload : Bytes} {claims : ProxyClaims} :
    claims? payload = some claims ↔ claims.SpelledBy payload := by
  unfold claims?
  constructor
  · intro h
    obtain ⟨fields, hfields, h⟩ := Option.bind_eq_some_iff.mp h
    obtain ⟨-, hjoined⟩ := Claims.split?_eq_some_iff.mp hfields
    split at h
    · rename_i v p target i e client proxy fresh
      simp only [Option.bind_eq_bind, Option.bind_eq_some_iff] at h
      obtain ⟨version, hversion, player, hplayer, issuedAt, hissued, expiresAt, hexpires, h⟩ := h
      cases h
      obtain ⟨hclient, hclientNe⟩ := Claims.optional_eq_iff.mp (Eq.refl (Claims.optional client))
      obtain ⟨hproxy, hproxyNe⟩ := Claims.optional_eq_iff.mp (Eq.refl (Claims.optional proxy))
      obtain ⟨hnonce, hnonceNe⟩ := Claims.optional_eq_iff.mp (Eq.refl (Claims.optional fresh))
      have hheads : Claims.Heads version player (String.ofList target) issuedAt expiresAt
          [v, p, target, i, e] :=
        ⟨v, p, i, e, by simp, hversion, hplayer, hissued, hexpires⟩
      refine ⟨⟨_, hheads, ?_⟩, hclientNe, hproxyNe, hnonceNe⟩
      rw [← hclient, ← hproxy, ← hnonce]
      exact hjoined
    · cases h
  · rintro ⟨⟨_, ⟨v, p, i, e, rfl, hversion, hplayer, hissued, hexpires⟩, hjoined⟩, hclient, hproxy,
      hnonce⟩
    rw [Claims.split?_eq_some_iff.mpr ⟨by simp, hjoined⟩]
    simp [hversion, hplayer, hissued, hexpires, Claims.optional_eq_iff.mpr ⟨rfl, hclient⟩,
      Claims.optional_eq_iff.mpr ⟨rfl, hproxy⟩, Claims.optional_eq_iff.mpr ⟨rfl, hnonce⟩]

theorem ofPayload_eq_ok_iff {payload : Bytes} {token : ProxyToken} :
    ofPayload payload = .ok token ↔ token.claims.SpelledBy payload := by
  rw [← claims?_eq_some_iff]
  unfold ofPayload
  cases claims? payload with
  | none => simp
  | some claims =>
      dsimp only
      rw [mapError_eq_ok_iff, ofClaims_eq_ok_iff, Option.some.injEq, eq_comm]

end ProxyToken

namespace TransferToken

theorem claims?_eq_some_iff {payload : Bytes} {claims : TransferClaims} :
    claims? payload = some claims ↔ claims.SpelledBy payload := by
  unfold claims?
  constructor
  · intro h
    obtain ⟨fields, hfields, h⟩ := Option.bind_eq_some_iff.mp h
    obtain ⟨-, hjoined⟩ := Claims.split?_eq_some_iff.mp hfields
    split at h
    · rename_i v p target i e
      simp only [Option.bind_eq_bind, Option.bind_eq_some_iff] at h
      obtain ⟨version, hversion, player, hplayer, issuedAt, hissued, expiresAt, hexpires, h⟩ := h
      cases h
      exact ⟨_, ⟨v, p, i, e, by simp, hversion, hplayer, hissued, hexpires⟩, hjoined⟩
    · cases h
  · rintro ⟨_, ⟨v, p, i, e, rfl, hversion, hplayer, hissued, hexpires⟩, hjoined⟩
    rw [Claims.split?_eq_some_iff.mpr ⟨by simp, hjoined⟩]
    simp [hversion, hplayer, hissued, hexpires]

theorem ofClaims_eq_ok_iff {claims : TransferClaims} {token : TransferToken} :
    ofClaims claims = .ok token ↔ token.claims = claims := by
  unfold ofClaims
  constructor
  · intro h
    split at h
    · cases h
      rfl
    · cases h
  · rintro rfl
    split
    · rfl
    · rename_i e he
      rw [token.checked] at he
      cases he

theorem ofPayload_eq_ok_iff {payload : Bytes} {token : TransferToken} :
    ofPayload payload = .ok token ↔ token.claims.SpelledBy payload := by
  rw [← claims?_eq_some_iff]
  unfold ofPayload
  cases claims? payload with
  | none => simp
  | some claims =>
      dsimp only
      rw [mapError_eq_ok_iff, ofClaims_eq_ok_iff, Option.some.injEq, eq_comm]

/-- The payload of a token spells its claims. -/
theorem spelledBy_payload (token : TransferToken) : token.claims.SpelledBy token.payload := by
  have htarget : Claims.checkId "target_server_id" token.claims.target = .ok () :=
    (bind_unit_eq_ok_iff.mp token.checked).1
  refine ⟨_, ⟨_, _, _, _, rfl, ?_, ?_, ?_, ?_⟩, rfl, Claims.delimiter_notMem_heads _ _ _ _ htarget⟩
  · exact Decimal.uint32?_ofUInt32 token.claims.version
  · exact Uuid.ofChars?_toChars token.claims.player
  · exact Decimal.millis?_ofMillis token.claims.issuedAt
  · exact Decimal.millis?_ofMillis token.claims.expiresAt

theorem payload_ne_nil (token : TransferToken) : token.payload ≠ [] := by
  intro h
  have hread := claims?_eq_some_iff.mpr token.spelledBy_payload
  rw [h] at hread
  have hnone : claims? [] = none := by decide
  rw [hnone] at hread
  cases hread

end TransferToken

end GameGateway
