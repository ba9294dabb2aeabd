import GameGateway.Proofs.Saturation
import GameGateway.Proofs.Token.Rotation

/-!
# Transfer tokens that are shown

A transfer token travels through the hands of a client and may come back with spaces and
control characters around it.  None of these occurs in the text of a token
(`SignedPayload.lt_of_mem_text`), so the text is found again, and once it is found the claims
decide (`TransferToken.validate_encode`): the player first, and the clock for that player only.

The word in front of a text is looked at before anything else, so what begins in another way
is never taken for a token (`TransferToken.isPrefix_of_validate`).
-/

namespace GameGateway

namespace SignedPayload

variable {kind : TokenKind} {signed : SignedPayload}

theorem isPrefix_text (kind : TokenKind) (signed : SignedPayload) :
    (kind.tag ++ ".").toList <+: (signed.text kind).toList := by
  rw [text, shown, String.toList_ofList, String.toList_append]
  exact ⟨Fields.join '.' [Base64Url.encodeChars signed.payload,
    Base64Url.encodeChars signed.signature], by rw [List.append_assoc]; rfl⟩

/-- The text of a token has neither spaces nor control characters. -/
theorem lt_of_mem_text {c : Char} (h : c ∈ (signed.text kind).toList) : ' ' < c := by
  have hdigits : ∀ bytes, ∀ c ∈ Base64Url.encodeChars bytes, ' ' < c :=
    Base64Url.forall_mem_encodeChars (by decide)
  have htag : kind.tag.toList.all (' ' < ·) = true := by
    cases kind <;> decide
  rw [text, shown, String.toList_ofList] at h
  simp only [Fields.join, List.mem_append, List.mem_cons] at h
  rcases h with h | rfl | h | rfl | h
  · exact of_decide_eq_true (List.all_eq_true.mp htag c h)
  · decide
  · exact hdigits _ c h
  · decide
  · exact hdigits _ c h

end SignedPayload

namespace TransferToken

variable {accepted : List Bytes} {secret : Bytes} {now : Millis} {player : Uuid}

/-- Once it is signed under an accepted secret, the claims decide about a token. -/
theorem validate_encode (token : TransferToken) (hsecret : secret ∈ accepted) :
    validate accepted now player (token.encode secret) =
      (checkClaims player now token.claims).map fun _ => token :=
  SignedPayload.validation_text (fun found : TransferToken => checkClaims player now found.claims)
    (fun _ found => found) token.payload_ne_nil
    (SignedPayload.signedByAny_sign hsecret token.payload)
    (ofPayload_eq_ok_iff.mpr token.spelledBy_payload)

/-- Whatever is taken for a token begins like one. -/
theorem isPrefix_of_validate {text : String} {token : TransferToken}
    (h : validate accepted now player text = .ok token) :
    (TokenKind.transfer.tag ++ ".").toList <+: text.toList := by
  obtain ⟨signed, htext, -⟩ := validate_eq_ok_iff.mp h
  obtain ⟨-, rfl⟩ := SignedPayload.ofText?_eq_ok_iff.mp htext
  exact SignedPayload.isPrefix_text .transfer signed

end TransferToken

/-! ## Claims of issued tokens -/

namespace TransferOrder

variable {order : TransferOrder} {now : Millis} {player : Uuid}

theorem expiresAt_claims (hpos : 0 < order.ttl) :
    order.claims.expiresAt = order.now.saturatingAdd order.ttl := by
  have hone : (1 : Millis) ≤ order.ttl := by
    rw [Int64.lt_iff_toInt_lt, Int64.toInt_zero] at hpos
    rw [Int64.le_iff_toInt_le, Int64.toInt_one]
    omega
  have hmax : max 1 order.ttl = order.ttl := if_pos hone
  rw [claims, hmax]

/-- The claims hold for the player from the issue until the lifetime is over. -/
theorem checkClaims_eq_ok (hpos : 0 < order.ttl) (hplayer : order.player = player)
    (hfrom : order.now ≤ now) (huntil : now.toInt ≤ order.now.toInt + order.ttl.toInt) :
    TransferToken.checkClaims player now order.claims = .ok () := by
  rw [TransferToken.checkClaims_eq_ok_iff, expiresAt_claims hpos,
    Millis.le_saturatingAdd_iff (Int64.le_of_lt hpos)]
  exact ⟨rfl, hplayer, hfrom, huntil⟩

/-- Somebody else is refused as such at any time. -/
theorem checkClaims_of_other (hplayer : order.player ≠ player) :
    TransferToken.checkClaims player now order.claims = .error (.player .transfer) := by
  have hversion : ¬ order.claims.version ≠ Claims.currentVersion := not_not_intro rfl
  unfold TransferToken.checkClaims
  rw [if_neg hversion]
  exact if_pos hplayer

theorem checkClaims_of_late (hpos : 0 < order.ttl) (hplayer : order.player = player)
    (hlate : order.now.toInt + order.ttl.toInt < now.toInt) :
    TransferToken.checkClaims player now order.claims =
      .error (.expired .transfer order.claims.expiresAt) := by
  have hexpired : order.claims.expiresAt < now := by
    rw [← Int64.not_le, expiresAt_claims hpos, Millis.le_saturatingAdd_iff (Int64.le_of_lt hpos)]
    exact Int.not_le.mpr hlate
  have hbegun : ¬ now < order.claims.issuedAt := by
    have horder : order.claims.issuedAt ≤ order.claims.expiresAt := by
      rw [expiresAt_claims hpos]
      exact Millis.le_saturatingAdd order.now (Int64.le_of_lt hpos)
    exact Int64.not_lt.mpr (Int64.le_of_lt (Int64.lt_of_le_of_lt horder hexpired))
  have hversion : ¬ order.claims.version ≠ Claims.currentVersion := not_not_intro rfl
  have hsame : ¬ order.claims.player ≠ player := not_not_intro hplayer
  unfold TransferToken.checkClaims
  rw [if_neg hversion, if_neg hsame, if_neg hbegun, if_pos hexpired]

end TransferOrder

end GameGateway
