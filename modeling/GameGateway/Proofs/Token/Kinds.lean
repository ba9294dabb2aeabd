import GameGateway.Proofs.Token.Reading

/-!
# The kinds of tokens are kept apart

The tag of a token covers its payload and not the word in front, and tokens of both kinds are
signed under the same secrets.  So somebody who holds a token of one kind can turn it into a
text of the other kind that is properly signed: `TokenKind.relabel` does that.

What keeps the kinds apart is the number of claims.  A proxy token has eight and a transfer
token five, no claim has the bar in it, and a payload is cut at its bars in one way; so no
payload spells claims of both kinds (`Claims.not_spelledBy_both`).  A relabelled token fails
when its claims are read, if it gets as far as that.
-/

namespace GameGateway

/-! ## Another word in front -/

/-- The text with the word of the given kind in the place of what stands before the first
dot. -/
def TokenKind.relabel (kind : TokenKind) (text : String) : String :=
  String.ofList (kind.tag.toList ++ text.toList.dropWhile (· ≠ '.'))

theorem SignedPayload.relabel_text (signed : SignedPayload) (kind other : TokenKind) :
    kind.relabel (signed.text other) = signed.text kind := by
  have hdrop : (signed.text other).toList.dropWhile (· ≠ '.') =
      '.' :: Fields.join '.' [Base64Url.encodeChars signed.payload,
        Base64Url.encodeChars signed.signature] := by
    rw [text, shown, String.toList_ofList]
    cases other <;> rfl
  rw [TokenKind.relabel, hdrop]
  rfl

/-! ## The number of claims -/

theorem Claims.not_spelledBy_both {payload : Bytes} {claims : ProxyClaims}
    {other : TransferClaims} (h : claims.SpelledBy payload) : ¬ other.SpelledBy payload := by
  rintro ⟨_, ⟨v, p, i, e, rfl, -⟩, hfive⟩
  obtain ⟨_, ⟨v', p', i', e', rfl, -⟩, height⟩ := h.fields
  have hcut := Claims.split?_eq_some_iff.mpr ⟨by simp, hfive⟩
  rw [Claims.split?_eq_some_iff.mpr ⟨by simp, height⟩] at hcut
  have hlength := congrArg List.length (Option.some.inj hcut)
  simp at hlength

/-- A payload that cannot be read does not pass for a token, whoever has signed it. -/
theorem SignedPayload.refused_of_unreadable {τ β : Type} {kind : TokenKind}
    {accepted : List Bytes} {signed : SignedPayload} {read : Bytes → Except TokenRejection τ}
    (check : τ → Except TokenRejection Unit) (result : SignedPayload → τ → β)
    (hne : signed.payload ≠ []) (hread : read signed.payload = .error (.unreadable kind)) :
    (do
      let signed ← SignedPayload.ofText? kind (signed.text kind)
      if !signed.signedByAny accepted then throw (TokenRejection.signature kind)
      let token ← read signed.payload
      check token
      return result signed token) =
    .error (if signed.signedByAny accepted then .unreadable kind else .signature kind) := by
  rw [SignedPayload.ofText?_text hne]
  cases hsigned : signed.signedByAny accepted with
  | false => simp [bind, Except.bind, hsigned, throw, throwThe, MonadExceptOf.throw]
  | true => simp [bind, Except.bind, hsigned, hread]

/-- The text of a proxy token with the word of the other kind in front. -/
theorem ProxyToken.validate_relabel (token : ProxyToken) (secret : Bytes) (accepted : List Bytes)
    (now : Millis) (player : Uuid) :
    TransferToken.validate accepted now player
        (TokenKind.transfer.relabel (token.encode secret)) =
      .error (if (SignedPayload.sign secret token.payload).signedByAny accepted then
        .unreadable .transfer else .signature .transfer) := by
  have hspelled : token.claims.readBack.SpelledBy token.payload :=
    ProxyToken.claims?_eq_some_iff.mp token.claims?_payload
  have hnone : TransferToken.claims? token.payload = none :=
    Option.eq_none_iff_forall_ne_some.mpr fun claims hclaims =>
      Claims.not_spelledBy_both hspelled (TransferToken.claims?_eq_some_iff.mp hclaims)
  rw [ProxyToken.encode, SignedPayload.relabel_text]
  refine SignedPayload.refused_of_unreadable
    (fun found : TransferToken => TransferToken.checkClaims player now found.claims)
    (fun _ found => found) token.payload_ne_nil ?_
  rw [SignedPayload.sign, TransferToken.ofPayload, hnone]

/-- The text of a transfer token with the word of the other kind in front. -/
theorem TransferToken.validate_relabel (token : TransferToken) (secret : Bytes)
    (accepted : List Bytes) (now : Millis) (policy : TokenPolicy) :
    policy.validate accepted now (TokenKind.proxy.relabel (token.encode secret)) =
      .error (if (SignedPayload.sign secret token.payload).signedByAny accepted then
        .unreadable .proxy else .signature .proxy) := by
  have hnone : ProxyToken.claims? token.payload = none :=
    Option.eq_none_iff_forall_ne_some.mpr fun claims hclaims =>
      Claims.not_spelledBy_both (ProxyToken.claims?_eq_some_iff.mp hclaims) token.spelledBy_payload
  rw [TransferToken.encode, SignedPayload.relabel_text]
  refine SignedPayload.refused_of_unreadable
    (fun found : ProxyToken => policy.checkClaims now found.claims)
    (fun signed found => ValidatedToken.mk found (policy.useOf found signed.signature))
    token.payload_ne_nil ?_
  rw [SignedPayload.sign, ProxyToken.ofPayload, hnone]

/-- **Tokens of the two kinds are not confused.**  Whatever a token says, under whichever
secret it is signed and whoever looks at it at any time: with the word of the other kind in
front it is not taken for a token of that kind.  If its secret is accepted, then the text is
that of a signed payload, and what is told is that it is malformed. -/
theorem kinds_apart (transfer : TransferToken) (proxy : ProxyToken) (secret : Bytes)
    (accepted : List Bytes) (now : Millis) :
    (∀ policy : TokenPolicy, ∃ rejection : TokenRejection,
      policy.validate accepted now (TokenKind.proxy.relabel (transfer.encode secret)) =
        .error rejection ∧
      (secret ∈ accepted → rejection = .unreadable .proxy ∧ rejection.fault = .malformed)) ∧
    ∀ player : Uuid, ∃ rejection : TokenRejection,
      TransferToken.validate accepted now player
        (TokenKind.transfer.relabel (proxy.encode secret)) = .error rejection ∧
      (secret ∈ accepted → rejection = .unreadable .transfer ∧ rejection.fault = .malformed) := by
  constructor
  · intro policy
    refine ⟨_, transfer.validate_relabel secret accepted now policy, fun hsecret => ?_⟩
    rw [if_pos (SignedPayload.signedByAny_sign hsecret transfer.payload)]
    exact ⟨rfl, rfl⟩
  · intro player
    refine ⟨_, proxy.validate_relabel secret accepted now player, fun hsecret => ?_⟩
    rw [if_pos (SignedPayload.signedByAny_sign hsecret proxy.payload)]
    exact ⟨rfl, rfl⟩

/-- A transfer token that leads a player to the lobby. -/
def TransferToken.toLobby : TransferToken := ⟨⟨1, .ofNat 7, "lobby", 0, 10⟩, rfl⟩

/-- A proxy token for the same player, backend and time, with every claim that there is. -/
def ProxyToken.forLobby : ProxyToken :=
  ⟨⟨1, .ofNat 7, "lobby", 0, 10, some "aa", some "bb", some "cc"⟩, rfl⟩

/-- Under one secret, which is accepted, and while both tokens hold. -/
theorem kinds_apart_in_lobby :
    ([1, 2, 3] : Bytes) ∈ [[1, 2, 3]] ∧
      TokenPolicy.validate ⟨"lobby", false⟩ [[1, 2, 3]] 5
        (TokenKind.proxy.relabel (TransferToken.toLobby.encode [1, 2, 3])) =
          .error (.unreadable .proxy) ∧
      TransferToken.validate [[1, 2, 3]] 5 (.ofNat 7)
        (TokenKind.transfer.relabel (ProxyToken.forLobby.encode [1, 2, 3])) =
          .error (.unreadable .transfer) := by
  have hsecret : ([1, 2, 3] : Bytes) ∈ [[1, 2, 3]] := List.mem_singleton_self _
  obtain ⟨hproxy, htransfer⟩ :=
    kinds_apart TransferToken.toLobby ProxyToken.forLobby [1, 2, 3] [[1, 2, 3]] 5
  obtain ⟨rejection, hvalidate, htold⟩ := hproxy ⟨"lobby", false⟩
  obtain ⟨rejection', hvalidate', htold'⟩ := htransfer (.ofNat 7)
  rw [(htold hsecret).1] at hvalidate
  rw [(htold' hsecret).1] at hvalidate'
  exact ⟨hsecret, hvalidate, hvalidate'⟩

end GameGateway
