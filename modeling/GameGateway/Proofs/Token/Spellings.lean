import GameGateway.Proofs.Token.Checks

/-!
# Spellings of tokens

A token is spelled twice over.  Its claims are spelled in a payload, and the payload with its
signature in a text.

A text has no choice.  Base64 has one spelling for each byte string, a text is cut at its dots
in one way, and so the text that reads as a signed payload is the one that is written for it
(`SignedPayload.readBehind?_eq_ok_iff`).  Nobody who sees a token can write it in another way,
and its signature can be told from the text without reading it.

A payload has some.  A number may have a sign or zeros in front and an identifier comes in
several forms, and an optional claim that is empty is as good as absent.  But whatever is
read has been made as a token is made, so it can be written, and what is written is read as
what it was (`ReadsBack`): the spelling that is written is one of those that are read.
-/

namespace GameGateway

/-! ## Texts -/

/-- **A token has one text.**  Behind a word without a dot, a text reads as a signed payload
exactly if it is the word, a dot, the spelling of the payload, a dot and the spelling of the
signature, and the payload is not empty; every other text is malformed.  So two texts never
read as the same signed payload.  A token without a nonce is remembered by the third part of the
text with which it was presented. -/
theorem SignedPayload.one_text :
    (∀ word text : String, '.' ∉ word.toList →
      (∀ signed : SignedPayload, readBehind? word text = .ok signed ↔
        signed.payload ≠ [] ∧ text = word ++ "." ++ Base64Url.encode signed.payload ++ "." ++
          Base64Url.encode signed.signature) ∧
      (∀ rejection, readBehind? word text = .error rejection → rejection.fault = .malformed) ∧
      ∀ (other : String) (signed : SignedPayload), readBehind? word text = .ok signed →
        readBehind? word other = .ok signed → other = text) ∧
    ∀ (policy : TokenPolicy) (accepted : List Bytes) (now : Millis) (text : String)
      (validated : ValidatedToken), policy.validate accepted now text = .ok validated →
      validated.token.claims.nonce = none →
      ∃ head payload,
        Fields.split '.' text.toList = [head, payload, validated.key.nonce.toList] := by
  constructor
  · intro word text hword
    refine ⟨fun signed => ?_, fun rejection h => ?_, fun other signed h hother => ?_⟩
    · rw [readBehind?_eq_ok_iff, shown_eq, and_iff_right hword]
    · exact TokenRejection.fault_eq (shape_of_readBehind? h)
    · rw [(readBehind?_eq_ok_iff.mp h).2.2]
      exact (readBehind?_eq_ok_iff.mp hother).2.2
  · intro policy accepted now text validated hvalidated hnonce
    obtain ⟨signed, hread, -, -, -, hkey⟩ := TokenPolicy.validate_eq_ok_iff.mp hvalidated
    obtain ⟨htag, -, rfl⟩ := readBehind?_eq_ok_iff.mp hread
    have hthird : validated.key.nonce.toList = Base64Url.encodeChars signed.signature := by
      rw [hkey, TokenPolicy.useOf, hnonce, Option.getD_none, Base64Url.encode, String.toList_ofList]
    exact ⟨_, _, by rw [split_shown htag, hthird]⟩

/-- A token without certificates and without a nonce: where there could be one, it is empty. -/
def ProxyToken.sparse : ProxyToken :=
  ⟨⟨1, .ofNat 7, "lobby", 0, 10, none, some "", some ""⟩, rfl⟩

/-- A text is read, and it is not read with a bit set behind its last byte or with padding.  The
sparse token is remembered by what stands behind its second dot. -/
theorem SignedPayload.one_text_sparse :
    '.' ∉ "v1".toList ∧ readBehind? "v1" "v1.YQ.Yg" = .ok ⟨[97], [98]⟩ ∧
    (∀ text ∈ ["v1.YQ.Yh", "v1.YQ.Yg=="], ∃ rejection, readBehind? "v1" text = .error rejection ∧
      rejection.fault = .malformed) ∧
    TokenPolicy.validate ⟨"lobby", false⟩ [[1, 2, 3]] 5 (ProxyToken.sparse.encode [1, 2, 3]) =
      .ok (ProxyToken.sparse.validated ⟨"lobby", false⟩ [1, 2, 3]) ∧
    ∃ head payload, Fields.split '.' (ProxyToken.sparse.encode [1, 2, 3]).toList = [head, payload,
      (ProxyToken.sparse.validated ⟨"lobby", false⟩ [1, 2, 3]).key.nonce.toList] := by
  have hword : '.' ∉ "v1".toList := by decide
  have hsecret : ([1, 2, 3] : Bytes) ∈ [[1, 2, 3]] := List.mem_singleton_self _
  obtain ⟨htexts, hthird⟩ := one_text
  obtain ⟨hread, -⟩ := htexts "v1" "v1.YQ.Yg" hword
  have hvalidated : TokenPolicy.validate ⟨"lobby", false⟩ [[1, 2, 3]] 5
      (ProxyToken.sparse.encode [1, 2, 3]) =
      .ok (ProxyToken.sparse.validated ⟨"lobby", false⟩ [1, 2, 3]) := by
    rw [ProxyToken.validate_encode _ hsecret]
    rfl
  refine ⟨hword, (hread ⟨[97], [98]⟩).mpr (by decide), ?_, hvalidated,
    hthird _ _ _ _ _ hvalidated rfl⟩
  have hrefused : ∀ text ∈ ["v1.YQ.Yh", "v1.YQ.Yg=="],
      readBehind? "v1" text = .error (.shape .signature) := by
    simp only [List.forall_mem_cons, List.not_mem_nil, false_imp_iff, implies_true, and_true]
    exact ⟨rfl, rfl⟩
  intro text htext
  obtain ⟨-, hmalformed, -⟩ := htexts "v1" text hword
  exact ⟨_, hrefused text htext, hmalformed _ (hrefused text htext)⟩

/-! ## Payloads -/

/-- What is written reads back as `kept` says, what is read can be written and read again, and
the rest is malformed. -/
structure ReadsBack {τ : Type} (write : τ → Bytes) (read : Bytes → Except TokenRejection τ)
    (kept : τ → τ) : Prop where
  written : ∀ token, read (write token) = .ok (kept token)
  again : ∀ payload token, read payload = .ok token → read (write token) = .ok token
  refused : ∀ payload rejection, read payload = .error rejection → rejection.fault = .malformed

/-- Claims that were read have no empty ones to lose. -/
theorem ProxyClaims.readBack_of_spelledBy {payload : Bytes} {claims : ProxyClaims}
    (h : claims.SpelledBy payload) : claims.readBack = claims := by
  have hkept : ∀ value : Option String, value ≠ some "" →
      value.filter (fun text => text ≠ "") = value := by
    intro value hne
    cases value with
    | none => rfl
    | some text => simpa [Option.filter] using hne
  unfold readBack
  rw [hkept _ h.clientCert, hkept _ h.proxyCert, hkept _ h.nonce]

theorem ProxyToken.readsBack : ReadsBack payload ofPayload readBack where
  written := ofPayload_payload
  again _ token h := by
    have hkept : token.readBack.claims = token.claims :=
      ProxyClaims.readBack_of_spelledBy (ofPayload_eq_ok_iff.mp h)
    have hmade := (ofClaims_eq_ok_iff.mpr hkept).symm.trans (ofClaims_eq_ok_iff.mpr rfl)
    rw [ofPayload_payload, Except.ok.inj hmade]
  refused _ _ h := TokenRejection.fault_eq (claims_of_ofPayload h)

theorem TransferToken.readsBack : ReadsBack payload ofPayload id where
  written token := ofPayload_eq_ok_iff.mpr token.spelledBy_payload
  again _ token _ := ofPayload_eq_ok_iff.mpr token.spelledBy_payload
  refused _ _ h := TokenRejection.fault_eq (claims_of_ofPayload h)

/-- **Claims survive.**  The payload of a proxy token that was made of claims reads back as those
claims, except that optional ones that are empty are absent, and the payload of a transfer
token as what it was.  Any payload is read exactly if it spells claims that a token can make,
in whichever way; what was read, written and read again is the same; and every other payload is
malformed. -/
theorem claims_survive :
    (∀ (claims : ProxyClaims) (token : ProxyToken), ProxyToken.ofClaims claims = .ok token →
      ∃ read, ProxyToken.ofPayload token.payload = .ok read ∧ read.claims = { claims with
        clientCert := claims.clientCert.filter fun text => text ≠ ""
        proxyCert := claims.proxyCert.filter fun text => text ≠ ""
        nonce := claims.nonce.filter fun text => text ≠ "" }) ∧
    (∀ (claims : TransferClaims) (token : TransferToken),
      TransferToken.ofClaims claims = .ok token →
      TransferToken.ofPayload token.payload = .ok token ∧ token.claims = claims) ∧
    (∀ (payload : Bytes) (token : ProxyToken),
      ProxyToken.ofPayload payload = .ok token ↔ token.claims.SpelledBy payload) ∧
    (∀ (payload : Bytes) (token : TransferToken),
      TransferToken.ofPayload payload = .ok token ↔ token.claims.SpelledBy payload) ∧
    ReadsBack ProxyToken.payload ProxyToken.ofPayload ProxyToken.readBack ∧
    ReadsBack TransferToken.payload TransferToken.ofPayload id := by
  refine ⟨?_, ?_, fun _ _ => ProxyToken.ofPayload_eq_ok_iff,
    fun _ _ => TransferToken.ofPayload_eq_ok_iff, ProxyToken.readsBack, TransferToken.readsBack⟩
  · intro claims token h
    cases ProxyToken.ofClaims_eq_ok_iff.mp h
    exact ⟨token.readBack, token.ofPayload_payload, rfl⟩
  · intro claims token h
    exact ⟨TransferToken.readsBack.written token, TransferToken.ofClaims_eq_ok_iff.mp h⟩

/-- The sparse token loses its empty claims.  A payload with signs, zeros and braces is read, and
the token that it spells is written in another way and read again. -/
theorem claims_survive_sparse :
    (ProxyToken.ofClaims ProxyToken.sparse.claims = .ok ProxyToken.sparse ∧
      ∃ read, ProxyToken.ofPayload ProxyToken.sparse.payload = .ok read ∧
        read.claims = ⟨1, .ofNat 7, "lobby", 0, 10, none, none, none⟩) ∧
    ∃ token : TransferToken, TransferToken.ofPayload
        (Utf8.encode "+01|{00000000-0000-0000-0000-000000000007}|lobby|-0|+0010") = .ok token ∧
      token.payload = Utf8.encode "1|00000000-0000-0000-0000-000000000007|lobby|0|10" ∧
      TransferToken.ofPayload token.payload = .ok token := by
  obtain ⟨hproxy, -, -, -, -, htransfer⟩ := claims_survive
  have hmade : ProxyToken.ofClaims ProxyToken.sparse.claims = .ok ProxyToken.sparse := rfl
  have hclaims : TransferToken.claims?
      (Utf8.encode "+01|{00000000-0000-0000-0000-000000000007}|lobby|-0|+0010") =
        some ⟨1, .ofNat 7, "lobby", 0, 10⟩ := by decide +kernel
  have hread : TransferToken.ofPayload
      (Utf8.encode "+01|{00000000-0000-0000-0000-000000000007}|lobby|-0|+0010") =
        .ok ⟨⟨1, .ofNat 7, "lobby", 0, 10⟩, rfl⟩ :=
    TransferToken.ofPayload_eq_ok_iff.mpr (TransferToken.claims?_eq_some_iff.mp hclaims)
  exact ⟨⟨hmade, hproxy _ _ hmade⟩, _, hread, by decide +kernel, htransfer.again _ _ hread⟩

end GameGateway
