import GameGateway.Proofs.Token.Reading
import GameGateway.Proofs.Token.Validity

/-!
# The checks on a token, in their order

A presented token is good if it passes every check, and if it fails several the first of
them is the one that is told.  The checks of the two kinds of tokens begin alike (`shape`,
`signature`, `claims`) and go on differently: `TokenPolicy.checks` and
`TransferToken.checks` are the two orders.

`DecidedBy order Passes outcome` ties an outcome to checks that are described without it.
It is built up along the validation: one check (`DecidedBy.single`), a check with more
behind it (`DecidedBy.ite`), and one part of the validation after another
(`DecidedBy.bind`).  What the two kinds have in common is said once, for any way to read a
payload and any checks on what was read (`decidedBy_validation`).
-/

namespace GameGateway

/-! ## Checks and what they tell -/

/-- What a presented token is checked for. -/
inductive TokenCheck where
  | shape
  | signature
  | claims
  | version
  | certificates
  | player
  | beginning
  | ending
  | target
deriving DecidableEq

namespace TokenCheck

/-- The word for a failure of the check. -/
def fault : TokenCheck → TokenFault
  | shape | claims | certificates => .malformed
  | signature => .invalidSignature
  | version => .unsupportedVersion
  | beginning => .notYetValid
  | ending => .expired
  | player | target => .targetMismatch

/-- Every check before this one passes, and this one does not. -/
def FailsFirst (order : List TokenCheck) (Passes : TokenCheck → Prop) (check : TokenCheck) : Prop :=
  ∃ before after, order = before ++ check :: after ∧ (∀ c ∈ before, Passes c) ∧ ¬ Passes check

variable {order rest : List TokenCheck} {Passes Passes' : TokenCheck → Prop} {check : TokenCheck}

theorem failsFirst_head (h : ¬ Passes check) : FailsFirst (check :: rest) Passes check :=
  ⟨[], rest, rfl, List.forall_mem_nil _, h⟩

theorem FailsFirst.append (h : FailsFirst order Passes check) (rest : List TokenCheck) :
    FailsFirst (order ++ rest) Passes check := by
  obtain ⟨before, after, rfl, hbefore, hcheck⟩ := h
  exact ⟨before, after ++ rest, by simp, hbefore, hcheck⟩

theorem FailsFirst.after (h : FailsFirst rest Passes check) (horder : ∀ c ∈ order, Passes c) :
    FailsFirst (order ++ rest) Passes check := by
  obtain ⟨before, after, rfl, hbefore, hcheck⟩ := h
  refine ⟨order ++ before, after, by simp, ?_, hcheck⟩
  intro c hc
  rcases List.mem_append.mp hc with hc | hc
  · exact horder c hc
  · exact hbefore c hc

theorem FailsFirst.congr (h : FailsFirst order Passes check)
    (hsame : ∀ c ∈ order, (Passes' c ↔ Passes c)) : FailsFirst order Passes' check := by
  obtain ⟨before, after, rfl, hbefore, hcheck⟩ := h
  refine ⟨before, after, rfl, fun c hc => ?_, ?_⟩
  · exact (hsame c (by simp [hc])).mpr (hbefore c hc)
  · exact (not_congr (hsame check (by simp))).mpr hcheck

end TokenCheck

/-- The check of which a rejection tells. -/
def TokenRejection.check? : TokenRejection → Option TokenCheck
  | absent | notText | replayed => none
  | shape _ => some .shape
  | signature _ => some .signature
  | unreadable _ | claim _ => some .claims
  | version .. => some .version
  | certificates => some .certificates
  | notYetValid .. => some .beginning
  | expired .. => some .ending
  | target _ => some .target
  | player _ => some .player

theorem TokenRejection.fault_eq {rejection : TokenRejection} {check : TokenCheck}
    (h : rejection.check? = some check) : rejection.fault = check.fault := by
  cases rejection <;> cases h <;> rfl

/-- The outcome is good exactly if all checks pass, and otherwise it tells of the first one
that does not. -/
structure DecidedBy {α : Type} (order : List TokenCheck) (Passes : TokenCheck → Prop)
    (outcome : Except TokenRejection α) : Prop where
  good : (∃ a, outcome = .ok a) ↔ ∀ check ∈ order, Passes check
  told : ∀ rejection, outcome = .error rejection → ∃ check,
    TokenCheck.FailsFirst order Passes check ∧ rejection.check? = some check ∧
      rejection.fault = check.fault

namespace DecidedBy

variable {α β : Type} {order rest : List TokenCheck} {Passes Passes' : TokenCheck → Prop}
  {check : TokenCheck} {outcome : Except TokenRejection α}

theorem nil (a : α) : DecidedBy [] Passes (.ok a : Except TokenRejection α) :=
  ⟨by simp, nofun⟩

theorem congr (h : DecidedBy order Passes outcome) (hsame : ∀ c ∈ order, (Passes' c ↔ Passes c)) :
    DecidedBy order Passes' outcome := by
  refine ⟨h.good.trans (forall₂_congr fun c hc => (hsame c hc).symm), ?_⟩
  intro rejection hrejection
  obtain ⟨check, hfirst, htells⟩ := h.told rejection hrejection
  exact ⟨check, hfirst.congr hsame, htells⟩

/-- One check alone. -/
theorem single (hgood : (∃ a, outcome = .ok a) ↔ Passes check)
    (htold : ∀ rejection, outcome = .error rejection → rejection.check? = some check) :
    DecidedBy [check] Passes outcome := by
  refine ⟨by simpa using hgood, ?_⟩
  intro rejection hrejection
  have hfails : ¬ Passes check := by
    rw [← hgood, hrejection]
    rintro ⟨a, ha⟩
    cases ha
  have htells := htold rejection hrejection
  exact ⟨check, TokenCheck.failsFirst_head hfails, htells, TokenRejection.fault_eq htells⟩

/-- A check in front of others. -/
theorem ite {p : Prop} [Decidable p] {rejection : TokenRejection} (hp : p ↔ ¬ Passes check)
    (htells : rejection.check? = some check) (h : DecidedBy rest Passes outcome) :
    DecidedBy (check :: rest) Passes (if p then .error rejection else outcome) := by
  by_cases hcase : p
  · have hfails := hp.mp hcase
    rw [if_pos hcase]
    refine ⟨⟨nofun, fun hall => absurd (hall check (by simp)) hfails⟩, ?_⟩
    intro told htold
    cases htold
    exact ⟨check, TokenCheck.failsFirst_head hfails, htells, TokenRejection.fault_eq htells⟩
  · have hpasses : Passes check := by
      rw [hp] at hcase
      exact Classical.not_not.mp hcase
    rw [if_neg hcase]
    refine ⟨?_, fun told htold => ?_⟩
    · rw [h.good, List.forall_mem_cons]
      exact (and_iff_right hpasses).symm
    · obtain ⟨later, hfirst, hrest⟩ := h.told told htold
      have hhead : ∀ c ∈ [check], Passes c := by simpa using hpasses
      exact ⟨later, hfirst.after hhead, hrest⟩

/-- One part of a validation after the other: the second one is looked at only if every
check of the first one passes. -/
theorem bind {next : α → Except TokenRejection β} (h : DecidedBy order Passes outcome)
    (hnext : ∀ a, outcome = .ok a → DecidedBy rest Passes (next a)) :
    DecidedBy (order ++ rest) Passes (outcome >>= next) := by
  cases houtcome : outcome with
  | error rejection =>
      obtain ⟨check, hfirst, htells⟩ := h.told rejection houtcome
      refine ⟨⟨nofun, fun hall => ?_⟩, ?_⟩
      · obtain ⟨a, ha⟩ := h.good.mpr fun c hc => hall c (List.mem_append_left _ hc)
        rw [houtcome] at ha
        cases ha
      · intro told htold
        cases htold
        exact ⟨check, hfirst.append rest, htells⟩
  | ok a =>
      have hall := h.good.mp ⟨a, houtcome⟩
      have hrest := hnext a houtcome
      refine ⟨?_, fun told htold => ?_⟩
      · rw [List.forall_mem_append]
        exact hrest.good.trans (and_iff_right hall).symm
      · obtain ⟨later, hfirst, htells⟩ := hrest.told told htold
        exact ⟨later, hfirst.after hall, htells⟩

end DecidedBy

/-! ## What the checks ask -/

namespace TokenCheck

/-- What a check asks of a text, for any way to spell tokens and any condition on them.  Each
check asks for what it needs to look at and for nothing else: a token may have come to its
end whether or not it is signed. -/
def Asks {τ : Type} (kind : TokenKind) (accepted : List Bytes) (Spells : Bytes → τ → Prop)
    (Meets : τ → TokenCheck → Prop) (text : String) : TokenCheck → Prop
  | shape => ∃ signed : SignedPayload, signed.ShownIn kind text
  | signature => ∃ signed : SignedPayload, signed.ShownIn kind text ∧ signed.SignedUnder accepted
  | claims => ∃ signed : SignedPayload, signed.ShownIn kind text ∧
      ∃ token, Spells signed.payload token
  | check => ∃ signed : SignedPayload, signed.ShownIn kind text ∧
      ∃ token, Spells signed.payload token ∧ Meets token check

end TokenCheck

theorem shape_of_readBehind? {word text : String} {rejection : TokenRejection}
    (h : SignedPayload.readBehind? word text = .error rejection) :
    rejection.check? = some .shape := by
  unfold SignedPayload.readBehind? at h
  split at h
  · split at h
    · cases h
      rfl
    split at h
    · cases h
      rfl
    · cases h
      rfl
    split at h
    · cases h
      rfl
    · cases h
  · cases h
    rfl

theorem claims_of_mapError {α : Type} {x : Except TokenError α} {rejection : TokenRejection}
    (h : x.mapError TokenRejection.claim = .error rejection) :
    rejection.check? = some .claims := by
  cases x with
  | ok a => cases h
  | error e =>
      cases h
      rfl

/-- A payload is refused for its claims and for nothing else. -/
theorem ProxyToken.claims_of_ofPayload {payload : Bytes} {rejection : TokenRejection}
    (h : ofPayload payload = .error rejection) : rejection.check? = some .claims := by
  unfold ofPayload at h
  split at h
  · cases h
    rfl
  · exact claims_of_mapError h

theorem TransferToken.claims_of_ofPayload {payload : Bytes} {rejection : TokenRejection}
    (h : ofPayload payload = .error rejection) : rejection.check? = some .claims := by
  unfold ofPayload at h
  split at h
  · cases h
    rfl
  · exact claims_of_mapError h

section Validation

variable {τ β : Type} {kind : TokenKind} {accepted : List Bytes} {text : String}
  {read : Bytes → Except TokenRejection τ} {check : τ → Except TokenRejection Unit}
  {Spells : Bytes → τ → Prop} {Meets : τ → TokenCheck → Prop} {rest : List TokenCheck}

/-- A text shows one signed payload at most, so what is asked of any is asked of that one. -/
theorem exists_shown_iff {signed : SignedPayload} (h : signed.ShownIn kind text)
    {P : SignedPayload → Prop} : (∃ other, other.ShownIn kind text ∧ P other) ↔ P signed := by
  constructor
  · rintro ⟨other, hother, hP⟩
    rwa [h.unique hother] at hP
  · exact fun hP => ⟨signed, h, hP⟩

theorem exists_spelled_iff
    (hread : ∀ payload token, read payload = .ok token ↔ Spells payload token)
    {payload : Bytes} {token : τ} (h : read payload = .ok token) {P : τ → Prop} :
    (∃ other, Spells payload other ∧ P other) ↔ P token := by
  constructor
  · rintro ⟨other, hother, hP⟩
    rw [← hread, h] at hother
    cases hother
    exact hP
  · exact fun hP => ⟨token, (hread payload token).mp h, hP⟩

/-- The validation of a token, whatever its kind: the text is taken apart, then the signature
is looked at, then the payload is read, and then the claims are checked. -/
theorem decidedBy_validation (result : SignedPayload → τ → β)
    (hread : ∀ payload token, read payload = .ok token ↔ Spells payload token)
    (hunreadable : ∀ payload rejection, read payload = .error rejection →
      rejection.check? = some .claims)
    (hcheck : ∀ token, DecidedBy rest (Meets token) (check token))
    (hrest : ∀ c ∈ rest, c ≠ .shape ∧ c ≠ .signature ∧ c ≠ .claims) :
    DecidedBy (.shape :: .signature :: .claims :: rest)
      (TokenCheck.Asks kind accepted Spells Meets text) (do
        let signed ← SignedPayload.ofText? kind text
        if !signed.signedByAny accepted then throw (.signature kind)
        let token ← read signed.payload
        check token
        return result signed token) := by
  change DecidedBy ([.shape] ++ .signature :: .claims :: rest) _ _
  refine DecidedBy.bind ?_ fun signed hsigned => ?_
  · refine DecidedBy.single ?_ fun rejection => shape_of_readBehind?
    exact exists_congr fun signed => SignedPayload.ofText?_eq_ok_iff
  have hshown := SignedPayload.ofText?_eq_ok_iff.mp hsigned
  refine DecidedBy.ite ?_ rfl ?_
  · rw [TokenCheck.Asks, exists_shown_iff hshown, ← SignedPayload.signedByAny_eq_true_iff]
    simp
  change DecidedBy ([.claims] ++ rest) _ _
  refine DecidedBy.bind ?_ fun token htoken => ?_
  · refine DecidedBy.single ?_ (hunreadable signed.payload)
    rw [TokenCheck.Asks, exists_shown_iff hshown]
    exact exists_congr fun token => hread signed.payload token
  -- From here on there is one token to look at.
  have hasks : ∀ c ∈ rest, (TokenCheck.Asks kind accepted Spells Meets text c ↔ Meets token c) := by
    intro c hc
    obtain ⟨hshape, hsignature, hclaims⟩ := hrest c hc
    rw [TokenCheck.Asks, exists_shown_iff hshown, exists_spelled_iff hread htoken]
    · exact hshape
    · exact hsignature
    · exact hclaims
  have hwhole := ((hcheck token).congr hasks).bind fun _ _ => DecidedBy.nil (result signed token)
  rwa [List.append_nil] at hwhole

end Validation

/-! ## Proxy tokens -/

namespace TokenPolicy

/-- The checks on a proxy token. -/
def checks : List TokenCheck :=
  [.shape, .signature, .claims, .version, .certificates, .beginning, .ending, .target]

/-- What a check asks of the claims. -/
def Meets (policy : TokenPolicy) (now : Millis) (claims : ProxyClaims) : TokenCheck → Prop
  | .version => claims.version = Claims.currentVersion
  | .certificates => policy.requireCertificates = true →
      claims.clientCert ≠ none ∧ claims.proxyCert ≠ none
  | .beginning => claims.issuedAt ≤ now
  | .ending => now ≤ claims.expiresAt
  | .target => claims.target = policy.serverId
  | _ => True

/-- What a check asks of the text of a proxy token. -/
def Asks (policy : TokenPolicy) (accepted : List Bytes) (now : Millis) (text : String) :
    TokenCheck → Prop :=
  TokenCheck.Asks .proxy accepted (fun payload token => token.claims.SpelledBy payload)
    (fun token : ProxyToken => policy.Meets now token.claims) text

theorem decidedBy_checkClaims {policy : TokenPolicy} {now : Millis} (claims : ProxyClaims) :
    DecidedBy [.version, .certificates, .beginning, .ending, .target] (policy.Meets now claims)
      (policy.checkClaims now claims) := by
  unfold checkClaims
  refine DecidedBy.ite Iff.rfl rfl ?_
  refine DecidedBy.ite ?_ rfl ?_
  · rw [Meets, Classical.not_imp, Classical.not_and_iff_not_or_not, Classical.not_not,
      Classical.not_not]
  refine DecidedBy.ite ?_ rfl ?_
  · exact Int64.not_le.symm
  refine DecidedBy.ite ?_ rfl ?_
  · exact Int64.not_le.symm
  exact DecidedBy.ite Iff.rfl rfl (DecidedBy.nil ())

theorem decidedBy_validate {policy : TokenPolicy} {accepted : List Bytes} {now : Millis}
    {text : String} :
    DecidedBy checks (policy.Asks accepted now text) (policy.validate accepted now text) := by
  unfold checks Asks validate
  apply decidedBy_validation
  · exact fun _ _ => ProxyToken.ofPayload_eq_ok_iff
  · exact fun _ _ => ProxyToken.claims_of_ofPayload
  · exact fun token => decidedBy_checkClaims token.claims
  · decide

end TokenPolicy

/-! ## Transfer tokens -/

namespace TransferToken

/-- The checks on a transfer token. -/
def checks : List TokenCheck :=
  [.shape, .signature, .claims, .version, .player, .beginning, .ending]

/-- What a check asks of the claims. -/
def Meets (player : Uuid) (now : Millis) (claims : TransferClaims) : TokenCheck → Prop
  | .version => claims.version = Claims.currentVersion
  | .player => claims.player = player
  | .beginning => claims.issuedAt ≤ now
  | .ending => now ≤ claims.expiresAt
  | _ => True

/-- What a check asks of the text of a transfer token. -/
def Asks (accepted : List Bytes) (now : Millis) (player : Uuid) (text : String) :
    TokenCheck → Prop :=
  TokenCheck.Asks .transfer accepted (fun payload token => token.claims.SpelledBy payload)
    (fun token : TransferToken => Meets player now token.claims) text

variable {accepted : List Bytes} {now : Millis} {player : Uuid} {text : String}

theorem decidedBy_checkClaims (claims : TransferClaims) :
    DecidedBy [.version, .player, .beginning, .ending] (Meets player now claims)
      (checkClaims player now claims) := by
  unfold checkClaims
  refine DecidedBy.ite Iff.rfl rfl ?_
  refine DecidedBy.ite Iff.rfl rfl ?_
  refine DecidedBy.ite ?_ rfl ?_
  · exact Int64.not_le.symm
  refine DecidedBy.ite ?_ rfl ?_
  · exact Int64.not_le.symm
  exact DecidedBy.nil ()

theorem decidedBy_validate :
    DecidedBy checks (Asks accepted now player text) (validate accepted now player text) := by
  unfold checks Asks validate
  apply decidedBy_validation
  · exact fun _ _ => ofPayload_eq_ok_iff
  · exact fun _ _ => claims_of_ofPayload
  · exact fun token => decidedBy_checkClaims token.claims
  · decide

theorem checkClaims_eq_ok_iff {claims : TransferClaims} :
    checkClaims player now claims = .ok () ↔
      claims.version = Claims.currentVersion ∧ claims.player = player ∧
        claims.issuedAt ≤ now ∧ now ≤ claims.expiresAt := by
  have hdecided : DecidedBy _ (Meets player now claims) (checkClaims player now claims) :=
    decidedBy_checkClaims claims
  have hgood : (∃ u, checkClaims player now claims = .ok u) ↔
      checkClaims player now claims = .ok () :=
    ⟨fun ⟨(), h⟩ => h, fun h => ⟨(), h⟩⟩
  rw [← hgood, hdecided.good]
  simp [Meets]

theorem validate_eq_ok_iff {token : TransferToken} :
    validate accepted now player text = .ok token ↔
      ∃ signed, SignedPayload.ofText? .transfer text = .ok signed ∧
        signed.signedByAny accepted = true ∧ ofPayload signed.payload = .ok token ∧
        checkClaims player now token.claims = .ok () := by
  unfold validate
  rw [bind_eq_ok_iff]
  refine exists_congr fun signed => and_congr_right fun _ => ?_
  cases hsigned : signed.signedByAny accepted with
  | false => simp
  | true =>
      simp only [Bool.not_true, Bool.false_eq_true, ↓reduceIte, bind_eq_ok_iff, true_and]
      constructor
      · rintro ⟨found, hfound, _, hclaims, hsame⟩
        cases hsame
        exact ⟨hfound, hclaims⟩
      · rintro ⟨hfound, hclaims⟩
        exact ⟨token, hfound, (), hclaims, rfl⟩

end TransferToken

/-! ## Both kinds -/

/-- **Validation is exact.**  A text is taken for a proxy token exactly if it is the text of a
payload with its tag under an accepted secret, and the payload spells claims of the right
version for this backend that hold now, with both certificates if they are required.  What is
taken is those claims, and their use is told by the backend, the player and the nonce, or the
signature if there is none.  A text that is refused is refused for the first check that it
fails.  For transfer tokens the same holds with checks of their own. -/
theorem validation_exact :
    (∀ (policy : TokenPolicy) (accepted : List Bytes) (now : Millis) (text : String),
      (∀ validated : ValidatedToken, policy.validate accepted now text = .ok validated ↔
        ∃ signed : SignedPayload, signed.ShownIn .proxy text ∧ signed.SignedUnder accepted ∧
          validated.token.claims.SpelledBy signed.payload ∧
          validated.token.claims.version = Claims.currentVersion ∧
          validated.token.claims.target = policy.serverId ∧
          validated.token.claims.issuedAt ≤ now ∧ now ≤ validated.token.claims.expiresAt ∧
          (policy.requireCertificates = true →
            validated.token.claims.clientCert ≠ none ∧ validated.token.claims.proxyCert ≠ none) ∧
          validated.key = ⟨policy.serverId, validated.token.claims.player,
            validated.token.claims.nonce.getD (Base64Url.encode signed.signature)⟩) ∧
      DecidedBy TokenPolicy.checks (policy.Asks accepted now text)
        (policy.validate accepted now text)) ∧
    ∀ (accepted : List Bytes) (now : Millis) (player : Uuid) (text : String),
      (∀ token : TransferToken, TransferToken.validate accepted now player text = .ok token ↔
        ∃ signed : SignedPayload, signed.ShownIn .transfer text ∧ signed.SignedUnder accepted ∧
          token.claims.SpelledBy signed.payload ∧
          token.claims.version = Claims.currentVersion ∧ token.claims.player = player ∧
          token.claims.issuedAt ≤ now ∧ now ≤ token.claims.expiresAt) ∧
      DecidedBy TransferToken.checks (TransferToken.Asks accepted now player text)
        (TransferToken.validate accepted now player text) := by
  constructor
  · intro policy accepted now text
    refine ⟨fun validated => ?_, TokenPolicy.decidedBy_validate⟩
    simp only [TokenPolicy.validate_eq_ok_iff, SignedPayload.ofText?_eq_ok_iff,
      SignedPayload.signedByAny_eq_true_iff, ProxyToken.ofPayload_eq_ok_iff,
      TokenPolicy.checkClaims_eq_ok_iff]
    refine exists_congr fun signed => ?_
    constructor
    · rintro ⟨hshown, hsigned, hspelled, ⟨hadmits, hfrom, huntil⟩, hkey⟩
      exact ⟨hshown, hsigned, hspelled, hadmits.version, hadmits.target, hfrom, huntil,
        hadmits.certificates, hkey⟩
    · rintro ⟨hshown, hsigned, hspelled, hversion, htarget, hfrom, huntil, hcerts, hkey⟩
      exact ⟨hshown, hsigned, hspelled, ⟨⟨hversion, hcerts, htarget⟩, hfrom, huntil⟩, hkey⟩
  · intro accepted now player text
    refine ⟨fun token => ?_, TransferToken.decidedBy_validate⟩
    simp only [TransferToken.validate_eq_ok_iff, SignedPayload.ofText?_eq_ok_iff,
      SignedPayload.signedByAny_eq_true_iff, TransferToken.ofPayload_eq_ok_iff,
      TransferToken.checkClaims_eq_ok_iff]

end GameGateway
