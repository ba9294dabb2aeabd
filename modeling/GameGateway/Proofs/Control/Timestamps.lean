import GameGateway.Proofs.Control.Sending

/-!
# The times of packets in exact numbers

An envelope may be read from some instant on and until some other.  Both ends are sums that
stop at the ends of the range of instants, and whoever wrote the envelope has chosen what is
added: the instant of issue and the span can be as extreme as numbers allow.

It makes no difference that the sums are cut off (`isTimely_iff_readableAt`).  An end that is
cut off lies at an end of the range, where it turns nobody away, and the exact sum lies beyond
the range, where it turns nobody away either.  The later end is the sum of two steps, each of
which can be cut off: after a first step that was, the second one stays where it is
(`Millis.le_saturatingAdd_saturatingAdd_iff`).

All this is so because clocks are never said to differ by a negative span, and configurations
that say so are not used (`maxClockSkew_nonneg`).
-/

namespace GameGateway

namespace Envelope

variable {envelope : Envelope} {now skew : Millis}

/-- The envelope may be read at `now` when clocks may differ by `skew`, in numbers without
bounds. -/
def ReadableAt (envelope : Envelope) (now skew : Int) : Prop :=
  0 < envelope.ttl.toInt ∧ envelope.issuedAt.toInt - skew ≤ now ∧
    now ≤ envelope.issuedAt.toInt + envelope.ttl.toInt + skew

theorem earliest_le_iff (hskew : 0 ≤ skew) :
    envelope.earliest skew ≤ now ↔ envelope.issuedAt.toInt - skew.toInt ≤ now.toInt :=
  Millis.saturatingSub_le_iff hskew

theorem le_latest_iff (httl : 0 < envelope.ttl) (hskew : 0 ≤ skew) :
    now ≤ envelope.latest skew ↔
      now.toInt ≤ envelope.issuedAt.toInt + envelope.ttl.toInt + skew.toInt :=
  Millis.le_saturatingAdd_saturatingAdd_iff (Int64.le_of_lt httl) hskew

/-- Sums that are cut off tell every instant what the exact ones would. -/
theorem isTimely_iff_readableAt (hskew : 0 ≤ skew) :
    envelope.isTimely now skew = true ↔ envelope.ReadableAt now.toInt skew.toInt := by
  have hpositive : 0 < envelope.ttl ↔ 0 < envelope.ttl.toInt := by
    rw [Int64.lt_iff_toInt_lt, Int64.toInt_zero]
  rw [isTimely_iff, ReadableAt, ← hpositive]
  apply and_congr_right
  intro httl
  rw [earliest_le_iff hskew, le_latest_iff httl hskew]

end Envelope

namespace ControlEndpoint

/-- Only configurations under which clocks differ by no negative span are used. -/
theorem maxClockSkew_nonneg {config : ControlConfig} (h : config.problems = []) :
    0 ≤ config.maxClockSkew := by
  simp only [ControlConfig.problems, List.append_eq_nil_iff, Config.sentenceIf_eq_nil_iff] at h
  obtain ⟨-, hskew⟩ := h
  exact Int64.not_lt.mp (of_decide_eq_false hskew)

/-! ## The check of the times -/

/-- The packet gets as far as the check of its times, with this envelope in it. -/
structure ReachesTimes (endpoint : ControlEndpoint) (packet : Bytes) (envelope : Envelope) :
    Prop where
  fits : packet.length ≤ endpoint.config.maxPayload
  room : endpoint.limiter.count < endpoint.limiter.limit
  decodes : Envelope.decode? packet = some envelope
  sender : endpoint.senders.allows envelope.sender = true

variable {endpoint : ControlEndpoint} {now : Millis} {packet : Bytes} {envelope : Envelope}

/-- Behind the check of the times no other check fails. -/
theorem inspect_of_reachesTimes (h : endpoint.ReachesTimes packet envelope) :
    endpoint.inspect now packet =
      if envelope.isTimely now endpoint.config.maxClockSkew then .ok envelope
      else .error .invalidTimestamp := by
  have hpayload : envelope.payload.length ≤ packet.length := by
    rw [Envelope.length_of_decode? h.decodes]
    exact Nat.le_add_left _ _
  have hfits : ¬ endpoint.config.maxPayload < envelope.payload.length :=
    Nat.not_lt.mpr (hpayload.trans h.fits)
  rw [inspect, if_neg (Nat.not_lt.mpr h.fits), if_neg (Nat.not_le.mpr h.room), h.decodes]
  dsimp only
  rw [h.sender, if_neg hfits]
  cases envelope.isTimely now endpoint.config.maxClockSkew with
  | true => rfl
  | false => rfl

/-- The times are found wrong only where they are looked at. -/
theorem exists_reachesTimes (h : endpoint.inspect now packet = .error .invalidTimestamp) :
    ∃ envelope, endpoint.ReachesTimes packet envelope := by
  unfold inspect at h
  split at h
  · cases h
  rename_i hfits
  split at h
  · cases h
  rename_i hroom
  split at h
  · cases h
  rename_i envelope hdecode
  split at h
  · cases h
  rename_i hsender
  exact ⟨envelope, Nat.not_lt.mp hfits, Nat.not_le.mp hroom, hdecode, by simpa using hsender⟩

theorem inspect_eq_ok_iff_readableAt (hskew : 0 ≤ endpoint.config.maxClockSkew) :
    endpoint.inspect now packet = .ok envelope ↔ endpoint.ReachesTimes packet envelope ∧
      envelope.ReadableAt now.toInt endpoint.config.maxClockSkew.toInt := by
  rw [← Envelope.isTimely_iff_readableAt hskew]
  constructor
  · intro h
    obtain ⟨hfits, hroom, hdecode, hsender, htimely, -⟩ := inspect_eq_ok_iff.mp h
    exact ⟨⟨hfits, hroom, hdecode, hsender⟩, htimely⟩
  · rintro ⟨hreaches, htimely⟩
    rw [inspect_of_reachesTimes hreaches, if_pos htimely]

theorem inspect_eq_invalidTimestamp_iff (hskew : 0 ≤ endpoint.config.maxClockSkew) :
    endpoint.inspect now packet = .error .invalidTimestamp ↔
      ∃ envelope, endpoint.ReachesTimes packet envelope ∧
        ¬ envelope.ReadableAt now.toInt endpoint.config.maxClockSkew.toInt := by
  constructor
  · intro h
    obtain ⟨envelope, hreaches⟩ := exists_reachesTimes h
    refine ⟨envelope, hreaches, ?_⟩
    intro hreadable
    rw [(inspect_eq_ok_iff_readableAt hskew).mpr ⟨hreaches, hreadable⟩] at h
    cases h
  · rintro ⟨envelope, hreaches, hlate⟩
    rw [← Envelope.isTimely_iff_readableAt hskew] at hlate
    rw [inspect_of_reachesTimes hreaches, if_neg hlate]

/-! ## The times are right -/

/-- **Times are checked exactly.**  When clocks may differ by a span that is not negative, an
envelope is timely exactly if its span is positive and `now` is neither before its issue less
the skew nor after its issue plus the span plus the skew, in numbers without bounds.  Every
configuration that can be used has such a skew, and under it an endpoint turns packets away
for their times exactly where these numbers say so. -/
theorem timestamps_exact {skew : Millis} (hskew : 0 ≤ skew) :
    (∀ (envelope : Envelope) (now : Millis), envelope.isTimely now skew = true ↔
      0 < envelope.ttl.toInt ∧ envelope.issuedAt.toInt - skew.toInt ≤ now.toInt ∧
        now.toInt ≤ envelope.issuedAt.toInt + envelope.ttl.toInt + skew.toInt) ∧
    (∀ config : ControlConfig, config.problems = [] → 0 ≤ config.maxClockSkew) ∧
    ∀ endpoint : ControlEndpoint, endpoint.config.maxClockSkew = skew → ∀ now packet,
      (∀ envelope, endpoint.inspect now packet = .ok envelope ↔
        endpoint.ReachesTimes packet envelope ∧ envelope.ReadableAt now.toInt skew.toInt) ∧
      (endpoint.inspect now packet = .error .invalidTimestamp ↔
        ∃ envelope, endpoint.ReachesTimes packet envelope ∧
          ¬ envelope.ReadableAt now.toInt skew.toInt) := by
  refine ⟨?_, ?_, ?_⟩
  · intro envelope now
    exact Envelope.isTimely_iff_readableAt hskew
  · intro config hproblems
    exact maxClockSkew_nonneg hproblems
  · intro endpoint hsame now packet
    subst hsame
    exact ⟨fun envelope => inspect_eq_ok_iff_readableAt hskew,
      inspect_eq_invalidTimestamp_iff hskew⟩

/-- A report that is issued in the last instant of all can be read in that instant, and one that
is issued in the first can be read in that one and not in the last. -/
theorem timestamps_exact_at_ends :
    (0 : Millis) ≤ 60000 ∧
      { onlineReport with issuedAt := Int64.maxValue }.isTimely Int64.maxValue 60000 = true ∧
      { onlineReport with issuedAt := Int64.minValue }.isTimely Int64.minValue 60000 = true ∧
      { onlineReport with issuedAt := Int64.minValue }.isTimely Int64.maxValue 60000 = false := by
  have hskew : (0 : Millis) ≤ 60000 := by decide
  obtain ⟨htimely, -⟩ := timestamps_exact hskew
  refine ⟨hskew, (htimely _ _).mpr (by decide), (htimely _ _).mpr (by decide), ?_⟩
  rw [← Bool.not_eq_true, htimely]
  decide

end ControlEndpoint

end GameGateway
