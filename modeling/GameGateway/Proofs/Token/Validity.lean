import GameGateway.Proofs.Chains
import GameGateway.Token.ProxyToken

/-!
# When a presented token is good

The checks on a presented token are a chain in which the first failure ends.  This
file says of each link what it means that it passes, and from that what a good token
is: `TokenPolicy.validate_eq_ok_iff` for its text and `Handshake.inspect_eq_ok_iff`
for what a client shows.

The clock enters in one place only.  A token that is good at one instant is therefore
good exactly while it holds, from the instant of its issue to that of its expiry, both
included (`Handshake.inspect_eq_ok_iff_of_ok`).
-/

namespace GameGateway

namespace TokenPolicy

/-- The conditions on claims that do not depend on the clock. -/
structure Admits (policy : TokenPolicy) (claims : ProxyClaims) : Prop where
  version : claims.version = Claims.currentVersion
  certificates : policy.requireCertificates = true →
    claims.clientCert ≠ none ∧ claims.proxyCert ≠ none
  target : claims.target = policy.serverId

/-- Claims pass exactly if they are admitted and hold now. -/
theorem checkClaims_eq_ok_iff {policy : TokenPolicy} {now : Millis} {claims : ProxyClaims} :
    policy.checkClaims now claims = .ok () ↔
      policy.Admits claims ∧ claims.issuedAt ≤ now ∧ now ≤ claims.expiresAt := by
  constructor
  · intro h
    unfold checkClaims at h
    split at h; · cases h
    split at h; · cases h
    split at h; · cases h
    split at h; · cases h
    split at h; · cases h
    rename_i hversion hcerts hearly hlate htarget
    refine ⟨⟨Decidable.not_not.mp hversion, fun hrequired => ?_, Decidable.not_not.mp htarget⟩,
      Int64.not_lt.mp hearly, Int64.not_lt.mp hlate⟩
    exact not_or.mp fun hmissing => hcerts ⟨hrequired, hmissing⟩
  · rintro ⟨⟨hversion, hcerts, htarget⟩, hearly, hlate⟩
    unfold checkClaims
    rw [if_neg (Decidable.not_not.mpr hversion), if_neg, if_neg (Int64.not_lt.mpr hearly),
      if_neg (Int64.not_lt.mpr hlate), if_neg (Decidable.not_not.mpr htarget)]
    rintro ⟨hrequired, hmissing⟩
    exact not_or.mpr (hcerts hrequired) hmissing

/-- Claims are refused for a missing certificate before the clock is looked at. -/
theorem checkClaims_of_missing {policy : TokenPolicy} {now : Millis} {claims : ProxyClaims}
    (hversion : claims.version = Claims.currentVersion)
    (hrequired : policy.requireCertificates = true)
    (hmissing : claims.clientCert = none ∨ claims.proxyCert = none) :
    policy.checkClaims now claims = .error .certificates := by
  unfold checkClaims
  rw [if_neg (not_not_intro hversion), if_pos ⟨hrequired, hmissing⟩]

/-- Claims that are admitted are refused as expired once they are. -/
theorem checkClaims_of_expired {policy : TokenPolicy} {now : Millis} {claims : ProxyClaims}
    (h : policy.Admits claims) (horder : claims.issuedAt ≤ claims.expiresAt)
    (hlate : claims.expiresAt < now) :
    policy.checkClaims now claims = .error (.expired .proxy claims.expiresAt) := by
  have hearly : ¬ now < claims.issuedAt :=
    Int64.not_lt.mpr (Int64.le_trans horder (Int64.le_of_lt hlate))
  have hcerts : ¬ (policy.requireCertificates = true ∧
      (claims.clientCert = none ∨ claims.proxyCert = none)) := by
    rintro ⟨hrequired, hmissing⟩
    exact not_or.mpr (h.certificates hrequired) hmissing
  unfold checkClaims
  rw [if_neg (not_not_intro h.version), if_neg hcerts, if_neg hearly, if_pos hlate]

/-- A text is a good token exactly if it is a payload signed under an accepted secret
that spells claims which pass. -/
theorem validate_eq_ok_iff {policy : TokenPolicy} {accepted : List Bytes} {now : Millis}
    {text : String} {validated : ValidatedToken} :
    policy.validate accepted now text = .ok validated ↔
      ∃ signed, SignedPayload.ofText? .proxy text = .ok signed ∧
        signed.signedByAny accepted = true ∧
        ProxyToken.ofPayload signed.payload = .ok validated.token ∧
        policy.checkClaims now validated.token.claims = .ok () ∧
        validated.key = policy.useOf validated.token signed.signature := by
  unfold validate
  rw [bind_eq_ok_iff]
  refine exists_congr fun signed => and_congr_right fun _ => ?_
  cases hsigned : signed.signedByAny accepted with
  | false => simp
  | true =>
      simp only [Bool.not_true, Bool.false_eq_true, ↓reduceIte, bind_eq_ok_iff, true_and]
      constructor
      · rintro ⟨token, htoken, _, hclaims, hkey⟩
        cases hkey
        exact ⟨htoken, hclaims, rfl⟩
      · rintro ⟨htoken, hclaims, hkey⟩
        refine ⟨_, htoken, (), hclaims, ?_⟩
        rw [← hkey]
        rfl

end TokenPolicy

namespace Handshake

/-- What a client shows is a good token exactly if, blanks around it left out, it is the
text of one that belongs to the claimed player. -/
theorem inspect_eq_ok_iff {policy : TokenPolicy} {accepted : List Bytes} {now : Millis}
    {data : Option Bytes} {claimed : Option Uuid} {validated : ValidatedToken} :
    inspect policy accepted now data claimed = .ok validated ↔
      Text.trimWhere isBlankByte (data.getD []) ≠ [] ∧
      ∃ text, Utf8.decode (Text.trimWhere isBlankByte (data.getD [])) = some text ∧
        policy.validate accepted now text = .ok validated ∧
        ∀ player, claimed = some player → player = validated.token.claims.player := by
  unfold inspect
  by_cases hempty : Text.trimWhere isBlankByte (data.getD []) = []
  · simp [hempty]
  · have hsome : (Text.trimWhere isBlankByte (data.getD [])).isEmpty = false := by
      simpa using hempty
    simp only [hsome, Bool.false_eq_true, ↓reduceIte, hempty, ne_eq, not_false_eq_true, true_and]
    cases hdecode : Utf8.decode (Text.trimWhere isBlankByte (data.getD [])) with
    | none => simp
    | some text =>
        simp only [Option.some.injEq, exists_eq_left', bind_eq_ok_iff]
        cases claimed with
        | none =>
            constructor
            · rintro ⟨found, hfound, hsame⟩
              cases hsame
              exact ⟨hfound, nofun⟩
            · rintro ⟨hfound, -⟩
              exact ⟨validated, hfound, rfl⟩
        | some player =>
            constructor
            · rintro ⟨found, hfound, hsame⟩
              dsimp only at hsame
              by_cases hplayer : player = found.token.claims.player
              · rw [if_neg (not_not_intro hplayer)] at hsame
                cases hsame
                exact ⟨hfound, fun _ h => Option.some.inj h ▸ hplayer⟩
              · rw [if_pos hplayer] at hsame
                exact absurd hsame throw_bind_ne_ok
            · rintro ⟨hfound, hplayer⟩
              exact ⟨validated, hfound, by simp [hplayer player rfl, pure, Except.pure]⟩

/-- What is wrong with the text of a token is wrong with what a client shows. -/
theorem inspect_eq_error {policy : TokenPolicy} {accepted : List Bytes} {now : Millis}
    {data : Option Bytes} {claimed : Option Uuid} {text : String} {rejection : TokenRejection}
    (hsome : Text.trimWhere isBlankByte (data.getD []) ≠ [])
    (hdecode : Utf8.decode (Text.trimWhere isBlankByte (data.getD [])) = some text)
    (hvalidate : policy.validate accepted now text = .error rejection) :
    inspect policy accepted now data claimed = .error rejection := by
  have hnonempty : (Text.trimWhere isBlankByte (data.getD [])).isEmpty = false := by
    simpa using hsome
  unfold inspect
  simp only [hnonempty, Bool.false_eq_true, ↓reduceIte, hdecode, hvalidate]
  rfl

/-- A token that is good at one instant is good exactly while it holds. -/
theorem inspect_eq_ok_iff_of_ok {policy : TokenPolicy} {accepted : List Bytes}
    {first now : Millis} {data : Option Bytes} {claimed : Option Uuid}
    {validated : ValidatedToken} (h : inspect policy accepted first data claimed = .ok validated) :
    inspect policy accepted now data claimed = .ok validated ↔
      validated.token.claims.issuedAt ≤ now ∧ now ≤ validated.token.claims.expiresAt := by
  rw [inspect_eq_ok_iff] at h ⊢
  obtain ⟨hsome, text, hdecode, hvalid, hplayer⟩ := h
  obtain ⟨signed, hsigned, hby, htoken, hclaims, hkey⟩ := TokenPolicy.validate_eq_ok_iff.mp hvalid
  obtain ⟨hadmits, -⟩ := TokenPolicy.checkClaims_eq_ok_iff.mp hclaims
  constructor
  · rintro ⟨-, text', -, hvalid', -⟩
    obtain ⟨_, -, -, -, hclaims', -⟩ := TokenPolicy.validate_eq_ok_iff.mp hvalid'
    exact (TokenPolicy.checkClaims_eq_ok_iff.mp hclaims').2
  · intro hholds
    refine ⟨hsome, text, hdecode, TokenPolicy.validate_eq_ok_iff.mpr ?_, hplayer⟩
    exact ⟨signed, hsigned, hby, htoken,
      TokenPolicy.checkClaims_eq_ok_iff.mpr ⟨hadmits, hholds⟩, hkey⟩

theorem holds_of_inspect {policy : TokenPolicy} {accepted : List Bytes} {now : Millis}
    {data : Option Bytes} {claimed : Option Uuid} {validated : ValidatedToken}
    (h : inspect policy accepted now data claimed = .ok validated) :
    validated.token.claims.issuedAt ≤ now ∧ now ≤ validated.token.claims.expiresAt :=
  (inspect_eq_ok_iff_of_ok h).mp h

end Handshake

end GameGateway
