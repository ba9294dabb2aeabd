import GameGateway.Proofs.Token.Kinds
import GameGateway.Proofs.Token.Checks

/-!
# Texts that nobody has signed

A text may have the shape of a token while its signature is the tag of its payload under
none of the accepted secrets.  Everybody can write such texts, so a validation must not tell
them apart: by what it says of them one could learn how payloads are read, or what time it is
at the other end.

It does not look at the payload before it has looked at the signature
(`SignedPayload.validation_of_not_signed`), and the failure of that check has a word that no
other failure has (`DecidedBy.unsigned_of_told`).  So the word stands for exactly these texts,
and what it comes with is the same for all of them.
-/

namespace GameGateway

/-- The text that a payload and a signature make, with the word of a kind in front. -/
def TokenKind.spell (kind : TokenKind) (payload signature : Bytes) : String :=
  kind.tag ++ "." ++ Base64Url.encode payload ++ "." ++ Base64Url.encode signature

/-- The signature is the tag of the payload under none of the secrets. -/
def Unsigned (secrets : List Bytes) (payload signature : Bytes) : Prop :=
  ∀ secret ∈ secrets, signature ≠ (Hmac.sign secret payload).bytes

/-- What a validation says of texts that are not signed, in any circumstances. -/
structure BlindToUnsigned {ι α : Type} (kind : TokenKind) (accepted : List Bytes)
    (validate : ι → String → Except TokenRejection α) : Prop where
  /-- Any two of them are told alike, wherever they are shown. -/
  alike : ∀ payload signature other otherSignature : Bytes, payload ≠ [] → other ≠ [] →
    Unsigned accepted payload signature → Unsigned accepted other otherSignature →
    ∀ here there : ι, validate here (kind.spell payload signature) = .error (.signature kind) ∧
      validate there (kind.spell other otherSignature) =
        validate here (kind.spell payload signature)
  /-- The word for a wrong signature is said of them and of nothing else. -/
  word : ∀ (here : ι) (text : String),
    (∃ rejection, validate here text = .error rejection ∧ rejection.fault = .invalidSignature) ↔
      ∃ payload signature, payload ≠ [] ∧ text = kind.spell payload signature ∧
        Unsigned accepted payload signature
  /-- Bytes of a good token are changed, so that it is not signed any more. -/
  changed : ∀ (here : ι) (text : String) (a : α), validate here text = .ok a →
    ∃ payload signature, text = kind.spell payload signature ∧
      ¬ Unsigned accepted payload signature ∧
      ∀ payload' signature' : Bytes, payload'.length = payload.length →
        Unsigned accepted payload' signature' →
        ∀ there : ι, validate there (kind.spell payload' signature') = .error (.signature kind)

/-! ## Signed payloads -/

namespace SignedPayload

theorem text_eq_spell (kind : TokenKind) (signed : SignedPayload) :
    signed.text kind = kind.spell signed.payload signed.signature :=
  signed.shown_eq kind.tag

theorem not_signedUnder_iff {secrets : List Bytes} (signed : SignedPayload) :
    ¬ signed.SignedUnder secrets ↔ Unsigned secrets signed.payload signed.signature := by
  simp [SignedUnder, Unsigned]

theorem exists_shownIn_iff {kind : TokenKind} {text : String} {P : SignedPayload → Prop} :
    (∃ signed : SignedPayload, signed.ShownIn kind text ∧ P signed) ↔
      ∃ payload signature, payload ≠ [] ∧ text = kind.spell payload signature ∧
        P ⟨payload, signature⟩ := by
  constructor
  · rintro ⟨signed, ⟨hne, htext⟩, hP⟩
    rw [text_eq_spell] at htext
    exact ⟨signed.payload, signed.signature, hne, htext, hP⟩
  · rintro ⟨payload, signature, hne, htext, hP⟩
    refine ⟨⟨payload, signature⟩, ⟨hne, ?_⟩, hP⟩
    rw [text_eq_spell]
    exact htext

/-- The payload is not read if its signature is wrong. -/
theorem validation_of_not_signed {τ β : Type} {kind : TokenKind} {accepted : List Bytes}
    {signed : SignedPayload} (read : Bytes → Except TokenRejection τ)
    (check : τ → Except TokenRejection Unit) (result : SignedPayload → τ → β)
    (hne : signed.payload ≠ []) (hsigned : ¬ signed.SignedUnder accepted) :
    (do
      let signed ← SignedPayload.ofText? kind (signed.text kind)
      if !signed.signedByAny accepted then throw (TokenRejection.signature kind)
      let token ← read signed.payload
      check token
      return result signed token) = .error (.signature kind) := by
  have hfalse : signed.signedByAny accepted = false := by
    rw [← signedByAny_eq_true_iff] at hsigned
    simpa using hsigned
  rw [SignedPayload.ofText?_text hne]
  simp [bind, Except.bind, hfalse, throw, throwThe, MonadExceptOf.throw]

end SignedPayload

/-! ## What the checks come to -/

section

variable {ι τ α : Type} {kind : TokenKind} {accepted : List Bytes} {text : String}
  {Spells : Bytes → τ → Prop} {Meets : τ → TokenCheck → Prop} {rest : List TokenCheck}
  {outcome : Except TokenRejection α}

/-- The word for a wrong signature is said of texts that have the shape of a token. -/
theorem DecidedBy.unsigned_of_told
    (h : DecidedBy (.shape :: rest) (TokenCheck.Asks kind accepted Spells Meets text) outcome)
    {rejection : TokenRejection} (htold : outcome = .error rejection)
    (hword : rejection.fault = .invalidSignature) :
    ∃ signed : SignedPayload, signed.ShownIn kind text ∧ ¬ signed.SignedUnder accepted := by
  obtain ⟨check, ⟨before, after, horder, hbefore, hfails⟩, -, hfault⟩ := h.told rejection htold
  have hcheck : check = .signature := by
    rw [hword] at hfault
    cases check <;> simp [TokenCheck.fault] at hfault ⊢
  subst hcheck
  have hshape : TokenCheck.shape ∈ before := by
    cases before with
    | nil => cases horder
    | cons first before =>
        obtain ⟨rfl, -⟩ := List.cons.inj horder
        exact List.mem_cons_self
  obtain ⟨signed, hshown⟩ := hbefore _ hshape
  exact ⟨signed, hshown, fun hsigned => hfails ⟨signed, hshown, hsigned⟩⟩

theorem DecidedBy.signed_of_good
    (h : DecidedBy (.shape :: .signature :: rest)
      (TokenCheck.Asks kind accepted Spells Meets text) outcome)
    {a : α} (hgood : outcome = .ok a) :
    ∃ signed : SignedPayload, signed.ShownIn kind text ∧ signed.SignedUnder accepted :=
  h.good.mp ⟨a, hgood⟩ .signature (by simp)

/-- A validation that looks at the shape first and at the signature next. -/
theorem BlindToUnsigned.of_decidedBy {validate : ι → String → Except TokenRejection α}
    (Spells : Bytes → τ → Prop) (Meets : ι → τ → TokenCheck → Prop)
    (hunsigned : ∀ here (signed : SignedPayload), signed.payload ≠ [] →
      ¬ signed.SignedUnder accepted →
      validate here (signed.text kind) = .error (.signature kind))
    (hdecided : ∀ here text, DecidedBy (.shape :: .signature :: rest)
      (TokenCheck.Asks kind accepted Spells (Meets here) text) (validate here text)) :
    BlindToUnsigned kind accepted validate := by
  have htold : ∀ here payload signature, payload ≠ [] → Unsigned accepted payload signature →
      validate here (kind.spell payload signature) = .error (.signature kind) := by
    intro here payload signature hne h
    have hsigned := hunsigned here ⟨payload, signature⟩ hne
      ((SignedPayload.not_signedUnder_iff ⟨payload, signature⟩).mpr h)
    rwa [SignedPayload.text_eq_spell] at hsigned
  refine ⟨?_, fun here text => ⟨?_, ?_⟩, ?_⟩
  · intro payload signature other otherSignature hne hne' h h' here there
    have hhere := htold here payload signature hne h
    exact ⟨hhere, (htold there other otherSignature hne' h').trans hhere.symm⟩
  · rintro ⟨rejection, htext, hword⟩
    have hshown := SignedPayload.exists_shownIn_iff.mp
      ((hdecided here text).unsigned_of_told htext hword)
    simpa only [SignedPayload.not_signedUnder_iff] using hshown
  · rintro ⟨payload, signature, hne, rfl, h⟩
    exact ⟨_, htold here payload signature hne h, rfl⟩
  · intro here text a hgood
    obtain ⟨payload, signature, hne, htext, hsigned⟩ := SignedPayload.exists_shownIn_iff.mp
      ((hdecided here text).signed_of_good hgood)
    refine ⟨payload, signature, htext, ?_, fun payload' signature' hlength h there => ?_⟩
    · exact fun h => (SignedPayload.not_signedUnder_iff ⟨payload, signature⟩).mpr h hsigned
    · refine htold there payload' signature' ?_ h
      -- The payload of a token is not empty, and no byte of it has gone.
      rw [← List.length_pos_iff] at hne ⊢
      omega

end

/-! ## Both kinds -/

/-- **What is not signed has no say.**  Of texts that have the shape of a token and are signed
under no accepted secret, every validation says the same: that the signature is wrong.  It says
so whatever is in the payload, whatever the time, the backend, the player and the policy, and it
says so of no other text.  So a good token that is changed into something that is not signed is
refused for its signature and for nothing else. -/
theorem blind_to_unsigned (accepted : List Bytes) :
    BlindToUnsigned .proxy accepted
      (fun (here : TokenPolicy × Millis) text => here.1.validate accepted here.2 text) ∧
    BlindToUnsigned .transfer accepted
      (fun (here : Millis × Uuid) text => TransferToken.validate accepted here.1 here.2 text) := by
  constructor
  · apply BlindToUnsigned.of_decidedBy
      (fun payload (token : ProxyToken) => token.claims.SpelledBy payload)
      (fun here token => here.1.Meets here.2 token.claims)
    · intro here signed hne hsigned
      exact SignedPayload.validation_of_not_signed ProxyToken.ofPayload
        (fun token => here.1.checkClaims here.2 token.claims)
        (fun signed token => ValidatedToken.mk token (here.1.useOf token signed.signature))
        hne hsigned
    · exact fun _ _ => TokenPolicy.decidedBy_validate
  · apply BlindToUnsigned.of_decidedBy
      (fun payload (token : TransferToken) => token.claims.SpelledBy payload)
      (fun here token => TransferToken.Meets here.2 here.1 token.claims)
    · intro here signed hne hsigned
      exact SignedPayload.validation_of_not_signed TransferToken.ofPayload
        (fun token => TransferToken.checkClaims here.2 here.1 token.claims)
        (fun _ token => token) hne hsigned
    · exact fun _ _ => TransferToken.decidedBy_validate

/-- There is no tag without bytes, so the token with its signature torn off is not signed, and no
more is a byte that is not UTF-8; they are told alike at different times and backends. -/
theorem blind_to_unsigned_in_lobby :
    TokenPolicy.validate ⟨"lobby", true⟩ [[1, 2, 3]] 5
        (TokenKind.proxy.spell ProxyToken.forLobby.payload []) = .error (.signature .proxy) ∧
      TokenPolicy.validate ⟨"arena", false⟩ [[1, 2, 3]] 700
        (TokenKind.proxy.spell [0xff] []) = .error (.signature .proxy) ∧
      TransferToken.validate [[1, 2, 3]] 5 (.ofNat 7)
        (TokenKind.transfer.spell TransferToken.toLobby.payload []) =
          .error (.signature .transfer) ∧
      TransferToken.validate [[1, 2, 3]] 700 (.ofNat 8)
        (TokenKind.transfer.spell [0xff] []) = .error (.signature .transfer) := by
  have hunsigned : ∀ payload, Unsigned [[1, 2, 3]] payload [] := by
    intro payload secret _ heq
    have hlength := (Hmac.sign secret payload).length_eq
    rw [← heq] at hlength
    cases hlength
  have hpayload : ProxyToken.forLobby.payload ≠ [] := ProxyToken.payload_ne_nil _
  have hpayload' : TransferToken.toLobby.payload ≠ [] := TransferToken.payload_ne_nil _
  have hbyte : ([0xff] : Bytes) ≠ [] := List.cons_ne_nil _ _
  obtain ⟨hproxy, htransfer⟩ := blind_to_unsigned [[1, 2, 3]]
  obtain ⟨hhere, hthere⟩ := hproxy.alike _ [] _ [] hpayload hbyte (hunsigned _) (hunsigned _)
    (⟨"lobby", true⟩, 5) (⟨"arena", false⟩, 700)
  obtain ⟨hhere', hthere'⟩ := htransfer.alike _ [] _ [] hpayload' hbyte (hunsigned _) (hunsigned _)
    (5, .ofNat 7) (700, .ofNat 8)
  exact ⟨hhere, hthere.trans hhere, hhere', hthere'.trans hhere'⟩

end GameGateway
