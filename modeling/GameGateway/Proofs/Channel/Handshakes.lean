import GameGateway.Proofs.Channel.Authorization

/-!
# How often a handshake authorizes

Whoever captures a handshake can send it again, from anywhere.  It is then refused for one of
two reasons: its timestamp is not near the clock any more, or its nonce is still in the replay
window.  The window is as long as the stretch of time in which the timestamp is near the clock,
from `Opening.firstInstant` to `Opening.lastInstant`.  But that stretch includes both of its
ends, and a window that opens at the first of them is over at the last.

So no run authorizes twice by one handshake if a window that opens in the first instant
outlasts the last one (`Opening.authorizesOnce_of_covers`), and otherwise coming in these two
instants is enough (`Opening.authorizations_bothEnds`).  Away from the ends of time the window
outlasts the stretch only if no skew is allowed at all (`Opening.InRange.covers_iff`).  With any
other skew these two instants are the only ones at which a handshake authorizes twice.

As in `Authorization.lean` the events of the past are listed from the last one to the first.
-/

namespace GameGateway

open MessagingFrame (authentic?)
open ReplayWindow (Answered Presentation)

/-- Is the datagram answered? -/
def DatagramOutcome.isReply : DatagramOutcome → Bool
  | .reply _ => true
  | _ => false

namespace DatagramServer

variable {α : Type}

/-- The clock does not go back from event to event. -/
def Chronological (past : List (Event α)) : Prop :=
  past.Pairwise fun later earlier => earlier.time ≤ later.time

namespace Opening

variable (o : Opening)

/-- The settings of the window to which nonces are presented. -/
def replay : ReplayConfig := { window := o.config.maxClockSkew.saturatingMul 2 }

/-- The first instant to which the timestamp is near. -/
def firstInstant (timestamp : Millis) : Millis := timestamp.saturatingSub o.config.maxClockSkew

/-- The last instant to which the timestamp is near. -/
def lastInstant (timestamp : Millis) : Millis := timestamp.saturatingAdd o.config.maxClockSkew

/-- A window that opens in the first instant is not over in the last one. -/
def Covers (timestamp : Millis) : Prop :=
  o.lastInstant timestamp < (o.firstInstant timestamp).saturatingAdd o.replay.validated.window

/-- No sum or difference that the timestamp enters leaves the range of instants, and the last
instant to which it is near is not the last one of all. -/
structure InRange (timestamp : Millis) : Prop where
  span : 2 * o.config.maxClockSkew.toInt ≤ Int64.maxValue.toInt
  first : Int64.minValue.toInt ≤ timestamp.toInt - o.config.maxClockSkew.toInt
  last : timestamp.toInt + o.config.maxClockSkew.toInt < Int64.maxValue.toInt

/-- What has been presented to the replay window, in order. -/
def presentations (past : List (Event α)) : List (Presentation Nonce) :=
  past.reverse.filterMap o.presentation?

/-- The answers that were given to it. -/
def answers (past : List (Event α)) : List (Answered Nonce) :=
  (ReplayWindow.new o.replay o.time).log (o.presentations past)

/-- The nonces that have been presented. -/
def presentedNonces (past : List (Event α)) : Finset Nonce :=
  ((o.presentations past).map Presentation.key).toFinset

section Authorizations

variable [DecidableEq α]

/-- Does the event, after the given past, consist in the datagram coming in and being
answered? -/
def authorizes (bytes : Bytes) (past : List (Event α)) (event : Event α) : Bool :=
  match event.step with
  | .datagram address received =>
      received = bytes && ((o.reached past).receive event.time address received).1.isReply
  | _ => false

/-- The instants at which the datagram was answered, from the last one to the first. -/
def authorizations (bytes : Bytes) : List (Event α) → List Millis
  | [] => []
  | event :: past =>
      if o.authorizes bytes past event then event.time :: authorizations bytes past
      else authorizations bytes past

end Authorizations

/-- No run that presents at most `count` nonces authorizes twice by the datagram. -/
def AuthorizesOnce (α : Type) [DecidableEq α] (count : Nat) (bytes : Bytes) : Prop :=
  ∀ past : List (Event α), Chronological past → (o.presentedNonces past).card ≤ count →
    (o.authorizations bytes past).length ≤ 1

/-! ## The stretch of time in which a handshake counts -/

variable {o} {timestamp now : Millis}

theorem isNear_iff (hskew : 0 ≤ o.config.maxClockSkew) : o.isNear now timestamp = true ↔
    o.firstInstant timestamp ≤ now ∧ now ≤ o.lastInstant timestamp := by
  rw [firstInstant, lastInstant, Millis.saturatingSub_le_iff hskew,
    Millis.le_saturatingAdd_iff hskew, isNear, decide_eq_true_iff]
  rw [Int64.le_iff_toInt_le, Int64.toInt_zero] at hskew
  omega

theorem firstInstant_le_lastInstant (hskew : 0 ≤ o.config.maxClockSkew) (timestamp : Millis) :
    o.firstInstant timestamp ≤ o.lastInstant timestamp :=
  Int64.le_trans (Millis.saturatingSub_le timestamp hskew) (Millis.le_saturatingAdd timestamp hskew)

namespace InRange

theorem toInt_firstInstant (h : o.InRange timestamp) (hskew : 0 ≤ o.config.maxClockSkew) :
    (o.firstInstant timestamp).toInt = timestamp.toInt - o.config.maxClockSkew.toInt := by
  rw [Int64.le_iff_toInt_le, Int64.toInt_zero] at hskew
  have hfirst := h.first
  have hmax := Millis.toInt_le_max timestamp
  rw [firstInstant, Millis.toInt_saturatingSub]
  omega

theorem toInt_lastInstant (h : o.InRange timestamp) (hskew : 0 ≤ o.config.maxClockSkew) :
    (o.lastInstant timestamp).toInt = timestamp.toInt + o.config.maxClockSkew.toInt :=
  Millis.toInt_saturatingAdd_of_le hskew (Int.le_of_lt h.last)

/-- The window is as long as the stretch, and never empty. -/
theorem toInt_window (h : o.InRange timestamp) (hskew : 0 ≤ o.config.maxClockSkew) :
    o.replay.validated.window.toInt = max 1 (2 * o.config.maxClockSkew.toInt) := by
  rw [Int64.le_iff_toInt_le, Int64.toInt_zero] at hskew
  have hspan := h.span
  have hdouble : o.replay.window.toInt = 2 * o.config.maxClockSkew.toInt := by
    have htwo : (2 : Millis).toInt = 2 := rfl
    have hmin : Int64.minValue.toInt ≤ 0 := by decide
    rw [replay, Millis.toInt_saturatingMul, htwo]
    omega
  rw [ReplayConfig.window_validated]
  split
  · rename_i hle
    rw [Int64.le_iff_toInt_le, Int64.toInt_one] at hle
    omega
  · rename_i hlt
    rw [Int64.le_iff_toInt_le, Int64.toInt_one] at hlt
    rw [Int64.toInt_one]
    omega

/-- Windows only fit between two instants near the timestamp if these are the first one and
the last one, and some skew is allowed. -/
theorem eq_ends_of_window_le (h : o.InRange timestamp) (hskew : 0 ≤ o.config.maxClockSkew)
    {earlier later : Millis} (hfirst : o.firstInstant timestamp ≤ earlier)
    (hlast : later ≤ o.lastInstant timestamp)
    (happart : earlier.saturatingAdd o.replay.validated.window ≤ later) :
    0 < o.config.maxClockSkew ∧ earlier = o.firstInstant timestamp ∧
      later = o.lastInstant timestamp := by
  have hrange := h.last
  have hmin := Millis.min_le_toInt earlier
  rw [Int64.le_iff_toInt_le, h.toInt_firstInstant hskew] at hfirst
  rw [Int64.le_iff_toInt_le, h.toInt_lastInstant hskew] at hlast
  rw [Int64.le_iff_toInt_le, Millis.toInt_saturatingAdd, h.toInt_window hskew] at happart
  rw [Int64.lt_iff_toInt_lt, ← Int64.toInt_inj, ← Int64.toInt_inj, Int64.toInt_zero,
    h.toInt_firstInstant hskew, h.toInt_lastInstant hskew]
  rw [Int64.le_iff_toInt_le, Int64.toInt_zero] at hskew
  omega

/-- The window covers the stretch only if the stretch is a single instant. -/
theorem covers_iff (h : o.InRange timestamp) (hskew : 0 ≤ o.config.maxClockSkew) :
    o.Covers timestamp ↔ o.config.maxClockSkew = 0 := by
  have hrange := h.last
  have hmin := Millis.min_le_toInt (o.firstInstant timestamp)
  rw [h.toInt_firstInstant hskew] at hmin
  rw [Covers, Int64.lt_iff_toInt_lt, Millis.toInt_saturatingAdd, h.toInt_window hskew,
    h.toInt_firstInstant hskew, h.toInt_lastInstant hskew, ← Int64.toInt_inj, Int64.toInt_zero]
  rw [Int64.le_iff_toInt_le, Int64.toInt_zero] at hskew
  omega

end InRange

/-! ## What has been presented -/

section Presentations

variable {past : List (Event α)} {event : Event α}

theorem presentations_cons (event : Event α) (past : List (Event α)) :
    o.presentations (event :: past) = o.presentations past ++ (o.presentation? event).toList := by
  rw [presentations, List.reverse_cons, List.filterMap_append, ← presentations]
  cases hpresented : o.presentation? event with
  | none => rw [List.filterMap_cons_none hpresented]; rfl
  | some p => rw [List.filterMap_cons_some hpresented]; rfl

theorem time_of_presentation? {p : Presentation Nonce} (h : o.presentation? event = some p) :
    p.time = event.time := by
  unfold presentation? at h
  split at h
  · split at h
    · cases h
      rfl
    · cases h
  · cases h

theorem presentation?_of_near {bytes : Bytes} {nonce : Nonce}
    (hframe : authentic? o.secret bytes = some (.handshake timestamp nonce)) (address : α)
    (hnear : o.isNear now timestamp = true) :
    o.presentation? ⟨now, .datagram address bytes⟩ = some ⟨now, nonce⟩ := by
  simp [presentation?, arrival?, hframe, hnear]

theorem chronological_presentations (h : Chronological past) :
    ReplayWindow.Chronological (o.presentations past) := by
  refine List.pairwise_filterMap.mpr (List.pairwise_reverse.mpr (h.imp ?_))
  intro later earlier hle p hp q hq
  rw [time_of_presentation? hp, time_of_presentation? hq]
  exact hle

theorem presentedNonces_subset_cons (event : Event α) (past : List (Event α)) :
    o.presentedNonces past ⊆ o.presentedNonces (event :: past) := by
  intro nonce hnonce
  rw [presentedNonces, List.mem_toFinset] at hnonce ⊢
  rw [presentations_cons, List.map_append]
  exact List.mem_append_left _ hnonce

theorem answers_cons_of_presented {p : Presentation Nonce} (h : o.presentation? event = some p) :
    o.answers (event :: past) =
      o.answers past ++ [⟨p, ((o.nonces past).register p.time p.key).1⟩] := by
  rw [answers, presentations_cons, h, ReplayWindow.log_append]
  rfl

theorem answers_subset_cons (event : Event α) (past : List (Event α)) :
    o.answers past ⊆ o.answers (event :: past) := by
  rw [answers, answers, presentations_cons, ReplayWindow.log_append]
  exact List.subset_append_left ..

end Presentations

/-! ## What the server still knows of the past -/

section Past

variable [DecidableEq α] {past : List (Event α)} {server : DatagramServer α} {event : Event α}
  {bytes : Bytes} {nonce : Nonce}

/-- The server is set up as it was opened, and what has been presented to its replay window is
what the past tells. -/
structure Remembers (o : Opening) (past : List (Event α)) (server : DatagramServer α) : Prop where
  secret : server.secret = o.secret
  config : server.config = o.config
  nonces : server.nonces = o.nonces past

namespace Remembers

variable {after : DatagramServer α}

omit [DecidableEq α] in
/-- An event that presents nothing leaves the replay window alone. -/
theorem of_unpresented (h : Remembers o past server) (hnone : o.presentation? event = none)
    (hsecret : after.secret = server.secret) (hconfig : after.config = server.config)
    (hnonces : after.nonces = server.nonces) : Remembers o (event :: past) after where
  secret := hsecret.trans h.secret
  config := hconfig.trans h.config
  nonces := by
    rw [hnonces, h.nonces, nonces_cons, hnone]

omit [DecidableEq α] in
theorem of_presented {p : Presentation Nonce} (h : Remembers o past server)
    (hsome : o.presentation? event = some p) (hsecret : after.secret = server.secret)
    (hconfig : after.config = server.config)
    (hnonces : after.nonces = (server.nonces.register p.time p.key).2) :
    Remembers o (event :: past) after where
  secret := hsecret.trans h.secret
  config := hconfig.trans h.config
  nonces := by
    rw [hnonces, h.nonces, nonces_cons, hsome]

omit [DecidableEq α] in
theorem isNear_eq (h : Remembers o past server) (now timestamp : Millis) :
    server.isNear now timestamp = o.isNear now timestamp := by
  rw [DatagramServer.isNear, h.config, Opening.isNear]

theorem accept {time : Millis} {address : α} {frame : MessagingFrame}
    (h : Remembers o past server) (hframe : authentic? o.secret bytes = some frame) :
    Remembers o (⟨time, .datagram address bytes⟩ :: past)
      (server.accept time address frame).2 := by
  cases frame with
  | handshake timestamp nonce =>
      cases hnear : o.isNear time timestamp with
      | false =>
          rw [accept_far (by rw [h.isNear_eq, hnear])]
          exact h.of_unpresented (by simp [presentation?, arrival?, hframe, hnear]) rfl rfl rfl
      | true =>
          have hserver : server.isNear time timestamp = true := by rw [h.isNear_eq, hnear]
          cases hnew : (server.nonces.register time nonce).1 with
          | false =>
              rw [accept_replayed hserver hnew]
              exact h.of_presented (presentation?_of_near hframe address hnear) rfl rfl rfl
          | true =>
              obtain ⟨reply, -, hreply⟩ := accept_new address hserver hnew
              rw [hreply]
              exact h.of_presented (presentation?_of_near hframe address hnear) rfl rfl rfl
  | acknowledgement nonce =>
      exact h.of_unpresented (by simp [presentation?, arrival?, hframe]) rfl rfl rfl
  | message channel payload =>
      have hnone : o.presentation? (⟨time, .datagram address bytes⟩ : Event α) = none := by
        simp [presentation?, arrival?, hframe]
      cases hauthorized : server.isAuthorized time address with
      | false =>
          rw [accept_late hauthorized]
          exact h.of_unpresented hnone rfl rfl rfl
      | true =>
          rw [accept_fresh hauthorized]
          exact h.of_unpresented hnone rfl rfl rfl

theorem perform (h : Remembers o past server) (event : Event α) :
    Remembers o (event :: past) (server.perform event) := by
  obtain ⟨time, step⟩ := event
  cases step with
  | datagram address bytes =>
      simp only [DatagramServer.perform, receive_eq, h.secret]
      cases hframe : authentic? o.secret bytes with
      | none => exact h.of_unpresented (by simp [presentation?, arrival?, hframe]) rfl rfl rfl
      | some frame => exact h.accept hframe
  | register channel =>
      simp only [DatagramServer.perform, DatagramServer.register, ChannelName.check]
      cases ChannelName.isValid channel with
      | true => exact h.of_unpresented rfl rfl rfl rfl
      | false => exact h.of_unpresented rfl rfl rfl rfl
  | unregister channel => exact h.of_unpresented rfl rfl rfl rfl
  | send channel payload => exact h.of_unpresented rfl rfl rfl rfl

end Remembers

theorem remembers_reached (o : Opening) (past : List (Event α)) :
    Remembers o past (o.reached past) := by
  induction past with
  | nil => exact ⟨rfl, rfl, rfl⟩
  | cons event past ih => exact ih.perform event

/-! ## What a handshake leads to -/

/-- A handshake is answered if its timestamp is near the clock and its nonce is new, and ignored
otherwise. -/
theorem receive_handshake_cases (address : α)
    (hframe : authentic? server.secret bytes = some (.handshake timestamp nonce)) :
    ((server.isNear now timestamp = true ∧ (server.nonces.register now nonce).1 = true) ∧
      ∃ reply, server.receive now address bytes =
        (.reply reply, (server.present now nonce).authorize now address)) ∨
    (¬ (server.isNear now timestamp = true ∧ (server.nonces.register now nonce).1 = true) ∧
      ∃ window, server.receive now address bytes =
        (.ignored, { server with nonces := window })) := by
  rw [receive_eq, hframe]
  dsimp only
  cases hnear : server.isNear now timestamp with
  | false => exact .inr ⟨nofun, _, accept_far hnear⟩
  | true =>
      cases hnew : (server.nonces.register now nonce).1 with
      | false => exact .inr ⟨nofun, _, accept_replayed hnear hnew⟩
      | true =>
          obtain ⟨reply, -, hreply⟩ := accept_new address hnear hnew
          exact .inl ⟨⟨rfl, rfl⟩, reply, hreply⟩

theorem isReply_receive_iff (address : α)
    (hframe : authentic? server.secret bytes = some (.handshake timestamp nonce)) :
    (server.receive now address bytes).1.isReply = true ↔
      server.isNear now timestamp = true ∧ (server.nonces.register now nonce).1 = true := by
  rcases receive_handshake_cases address hframe with ⟨hcounts, reply, h⟩ | ⟨hcounts, window, h⟩
  · rw [h]
    exact iff_of_true rfl hcounts
  · rw [h]
    exact iff_of_false nofun hcounts

/-- A handshake that is answered authorizes its address, and any other one nobody. -/
theorem authorized_receive_handshake (address : α)
    (hframe : authentic? server.secret bytes = some (.handshake timestamp nonce)) :
    (server.receive now address bytes).2.authorized =
      if (server.receive now address bytes).1.isReply then
        server.authorized.insert address (now + server.config.peerTtl)
      else server.authorized := by
  rcases receive_handshake_cases address hframe with ⟨-, reply, h⟩ | ⟨-, window, h⟩
  · rw [h]
    rfl
  · rw [h]
    rfl

/-- A handshake that authorizes is presented to the replay window, and new to it. -/
theorem authorizes_iff (hframe : authentic? o.secret bytes = some (.handshake timestamp nonce)) :
    o.authorizes bytes past event = true ↔
      (∃ address, event.step = .datagram address bytes) ∧
        o.isNear event.time timestamp = true ∧
        ((o.nonces past).register event.time nonce).1 = true := by
  obtain ⟨time, step⟩ := event
  cases step with
  | datagram address received =>
      by_cases hbytes : received = bytes
      · subst hbytes
        have h := remembers_reached o past
        rw [← h.secret] at hframe
        simp [authorizes, isReply_receive_iff address hframe, h.isNear_eq, h.nonces]
      · simp [authorizes, hbytes]
  | register channel => simp [authorizes]
  | unregister channel => simp [authorizes]
  | send channel payload => simp [authorizes]

/-! ## How often it is answered -/

theorem answers_cons_of_authorizes
    (hframe : authentic? o.secret bytes = some (.handshake timestamp nonce))
    (h : o.authorizes bytes past event = true) :
    o.answers (event :: past) = o.answers past ++ [⟨⟨event.time, nonce⟩, true⟩] := by
  obtain ⟨⟨address, hstep⟩, hnear, hnew⟩ := (authorizes_iff hframe).mp h
  obtain ⟨time, step⟩ := event
  cases hstep
  rw [answers_cons_of_presented (presentation?_of_near hframe address hnear), hnew]

theorem answered_of_mem_authorizations
    (hframe : authentic? o.secret bytes = some (.handshake timestamp nonce)) {t : Millis}
    (h : t ∈ o.authorizations bytes past) :
    o.isNear t timestamp = true ∧ ⟨⟨t, nonce⟩, true⟩ ∈ o.answers past := by
  induction past with
  | nil => cases h
  | cons event past ih =>
      rw [authorizations] at h
      split at h
      · rename_i hauthorizes
        rcases List.mem_cons.mp h with rfl | hrest
        · rw [answers_cons_of_authorizes hframe hauthorizes]
          exact ⟨((authorizes_iff hframe).mp hauthorizes).2.1, by simp⟩
        · obtain ⟨hnear, hmem⟩ := ih hrest
          exact ⟨hnear, answers_subset_cons event past hmem⟩
      · obtain ⟨hnear, hmem⟩ := ih h
        exact ⟨hnear, answers_subset_cons event past hmem⟩

/-- In a run with few nonces the window of an answer is over when the next one is given. -/
theorem authorizations_apart
    (hframe : authentic? o.secret bytes = some (.handshake timestamp nonce))
    (hclock : Chronological past) (hfew : (o.presentedNonces past).card ≤ o.replay.maxEntries) :
    (o.authorizations bytes past).Pairwise fun later earlier =>
      earlier.saturatingAdd o.replay.validated.window ≤ later := by
  induction past with
  | nil => exact List.Pairwise.nil
  | cons event past ih =>
      have hpast := ih (List.pairwise_cons.mp hclock).2
        ((Finset.card_le_card (presentedNonces_subset_cons event past)).trans hfew)
      rw [authorizations]
      split
      · rename_i hauthorizes
        refine List.pairwise_cons.mpr ⟨fun earlier hearlier => ?_, hpast⟩
        have hlog : (ReplayWindow.new o.replay o.time).log (o.presentations (event :: past)) =
            o.answers past ++ [⟨⟨event.time, nonce⟩, true⟩] :=
          answers_cons_of_authorizes hframe hauthorizes
        have hroom : ((o.presentations (event :: past)).map Presentation.key).toFinset.card ≤
            o.replay.validated.maxEntries := hfew.trans o.replay.maxEntries_le_validated
        have hover := ReplayWindow.over_le_of_accepted_again (chronological_presentations hclock)
          hroom hlog rfl (answered_of_mem_authorizations hframe hearlier).2 rfl rfl
        exact hover
      · exact hpast

/-- Of two answers the window of the first fits into the stretch in which the handshake
counts. -/
theorem authorizations_pairwise (hskew : 0 ≤ o.config.maxClockSkew)
    (hframe : authentic? o.secret bytes = some (.handshake timestamp nonce))
    (hclock : Chronological past) (hfew : (o.presentedNonces past).card ≤ o.replay.maxEntries) :
    (o.authorizations bytes past).Pairwise fun later earlier =>
      o.firstInstant timestamp ≤ earlier ∧
        earlier.saturatingAdd o.replay.validated.window ≤ later ∧
        later ≤ o.lastInstant timestamp := by
  refine (authorizations_apart hframe hclock hfew).imp_of_mem fun hlater hearlier happart => ?_
  have hfirst := (isNear_iff hskew).mp (answered_of_mem_authorizations hframe hearlier).1
  have hlast := (isNear_iff hskew).mp (answered_of_mem_authorizations hframe hlater).1
  exact ⟨hfirst.1, happart, hlast.2⟩

theorem authorizesOnce_of_covers (hskew : 0 ≤ o.config.maxClockSkew)
    (hframe : authentic? o.secret bytes = some (.handshake timestamp nonce))
    (hcovers : o.Covers timestamp) : o.AuthorizesOnce α o.replay.maxEntries bytes := by
  intro past hclock hfew
  have hpairs := authorizations_pairwise hskew hframe hclock hfew
  revert hpairs
  match o.authorizations bytes past with
  | [] | [_] => simp
  | later :: earlier :: rest =>
      intro hpairs
      obtain ⟨hfirst, happart, hlast⟩ :=
        (List.pairwise_cons.mp hpairs).1 earlier (List.mem_cons_self ..)
      -- So a window that opens in the first instant is over in the last one.
      have hover := Int64.le_trans (Millis.saturatingAdd_mono hfirst (Int64.le_refl _))
        (Int64.le_trans happart hlast)
      exact absurd hcovers (Int64.not_lt.mpr hover)

/-- Away from the ends of time a second answer needs both ends of the stretch. -/
theorem authorizations_of_inRange (hskew : 0 ≤ o.config.maxClockSkew)
    (hframe : authentic? o.secret bytes = some (.handshake timestamp nonce))
    (hrange : o.InRange timestamp) (hclock : Chronological past)
    (hfew : (o.presentedNonces past).card ≤ o.replay.maxEntries) :
    (o.authorizations bytes past).length ≤ 1 ∨ 0 < o.config.maxClockSkew ∧
      o.authorizations bytes past = [o.lastInstant timestamp, o.firstInstant timestamp] := by
  have hpairs := (authorizations_pairwise hskew hframe hclock hfew).imp
    fun {later earlier} ⟨hfirst, happart, hlast⟩ =>
      hrange.eq_ends_of_window_le hskew hfirst hlast happart
  revert hpairs
  match o.authorizations bytes past with
  | [] | [_] => simp
  | [later, earlier] =>
      intro hpairs
      obtain ⟨hpos, rfl, rfl⟩ := (List.pairwise_cons.mp hpairs).1 earlier (List.mem_cons_self ..)
      exact .inr ⟨hpos, rfl⟩
  | latest :: later :: earlier :: rest =>
      intro hpairs
      obtain ⟨hlatest, hrest⟩ := List.pairwise_cons.mp hpairs
      obtain ⟨hpos, hfirst, -⟩ := hlatest later (List.mem_cons_self ..)
      obtain ⟨-, -, hlast⟩ := (List.pairwise_cons.mp hrest).1 earlier (List.mem_cons_self ..)
      -- The one in the middle would come at both ends.
      have hends := congrArg Int64.toInt (hfirst.symm.trans hlast)
      rw [hrange.toInt_firstInstant hskew, hrange.toInt_lastInstant hskew] at hends
      rw [Int64.lt_iff_toInt_lt, Int64.toInt_zero] at hpos
      omega

/-! ## How often it is answered if it comes at both ends -/

/-- The datagram comes in the first instant in which it counts, and again in the last one. -/
def bothEnds (o : Opening) (timestamp : Millis) (bytes : Bytes) (first last : α) :
    List (Event α) :=
  [⟨o.lastInstant timestamp, .datagram last bytes⟩,
    ⟨o.firstInstant timestamp, .datagram first bytes⟩]

section BothEnds

variable (hskew : 0 ≤ o.config.maxClockSkew)
  (hframe : authentic? o.secret bytes = some (.handshake timestamp nonce)) (first last : α)

include hskew

omit [DecidableEq α] in
theorem chronological_bothEnds : Chronological (o.bothEnds timestamp bytes first last) :=
  List.pairwise_pair.mpr (firstInstant_le_lastInstant hskew timestamp)

theorem isNear_firstInstant : o.isNear (o.firstInstant timestamp) timestamp = true :=
  (isNear_iff hskew).mpr ⟨Int64.le_refl _, firstInstant_le_lastInstant hskew timestamp⟩

theorem isNear_lastInstant : o.isNear (o.lastInstant timestamp) timestamp = true :=
  (isNear_iff hskew).mpr ⟨firstInstant_le_lastInstant hskew timestamp, Int64.le_refl _⟩

include hframe

omit [DecidableEq α] in
/-- Only one nonce is presented. -/
theorem card_presentedNonces_bothEnds :
    (o.presentedNonces (o.bothEnds timestamp bytes first last)).card = 1 := by
  have hpresented : o.presentations (o.bothEnds timestamp bytes first last) =
      [⟨o.firstInstant timestamp, nonce⟩, ⟨o.lastInstant timestamp, nonce⟩] := by
    rw [bothEnds, presentations_cons, presentations_cons,
      presentation?_of_near hframe first (isNear_firstInstant hskew),
      presentation?_of_near hframe last (isNear_lastInstant hskew)]
    rfl
  rw [presentedNonces, hpresented]
  simp

theorem authorizations_bothEnds (hover : ¬ o.Covers timestamp) :
    o.authorizations bytes (o.bothEnds timestamp bytes first last) =
      [o.lastInstant timestamp, o.firstInstant timestamp] := by
  obtain ⟨hnew, hagain⟩ := ReplayWindow.accepted_twice o.replay o.time nonce
    (firstInstant_le_lastInstant hskew timestamp) (Int64.not_lt.mp hover)
  let arrival : Event α := ⟨o.firstInstant timestamp, .datagram first bytes⟩
  have hfirst : o.authorizes bytes [] arrival = true :=
    (authorizes_iff hframe).mpr ⟨⟨first, rfl⟩, isNear_firstInstant hskew, hnew⟩
  have hnonces : o.nonces [arrival] =
      ((ReplayWindow.new o.replay o.time).register (o.firstInstant timestamp) nonce).2 := by
    rw [nonces_cons, presentation?_of_near hframe first (isNear_firstInstant hskew)]
    rfl
  have hlast : o.authorizes bytes [arrival]
      ⟨o.lastInstant timestamp, .datagram last bytes⟩ = true :=
    (authorizes_iff hframe).mpr
      ⟨⟨last, rfl⟩, isNear_lastInstant hskew, by rw [hnonces]; exact hagain⟩
  simp only [bothEnds, authorizations]
  rw [if_pos hfirst, if_pos hlast]

/-- So one handshake authorizes twice unless the window covers the stretch. -/
theorem covers_of_authorizesOnce (address : α) {count : Nat} (hcount : 0 < count)
    (honce : o.AuthorizesOnce α count bytes) : o.Covers timestamp := by
  by_contra hover
  have hlength := honce _ (chronological_bothEnds hskew address address)
    (by rw [card_presentedNonces_bothEnds hskew hframe address address]; exact hcount)
  rw [authorizations_bothEnds hskew hframe address address hover] at hlength
  simp at hlength

end BothEnds

/-- **How often a handshake authorizes.**  A handshake is answered exactly if it authorizes the
address from which it comes.  No run with no more nonces than the window may hold authorizes
twice by it if a window that opens in the first instant in which it counts is not over in the
last one.  Otherwise coming in both is enough, even if nothing else ever comes.  Away from the
ends of time only a server that allows no skew is safe, and at any other one these two instants
are the only ones at which a handshake authorizes twice. -/
theorem handshake_authorizes_exact (o : Opening) {bytes : Bytes} {timestamp : Millis}
    {nonce : Nonce} (hskew : 0 ≤ o.config.maxClockSkew)
    (hframe : authentic? o.secret bytes = some (.handshake timestamp nonce)) :
    (∀ (past : List (Event α)) now address,
      ((o.reached past).receive now address bytes).2.authorized =
        if ((o.reached past).receive now address bytes).1.isReply then
          (o.reached past).authorized.insert address (now + o.config.peerTtl)
        else (o.reached past).authorized) ∧
    (o.Covers timestamp → o.AuthorizesOnce α o.replay.maxEntries bytes) ∧
    (∀ (_ : α) count, 0 < count → o.AuthorizesOnce α count bytes → o.Covers timestamp) ∧
    (o.InRange timestamp →
      (o.Covers timestamp ↔ o.config.maxClockSkew = 0) ∧
      ∀ past : List (Event α), Chronological past →
        (o.presentedNonces past).card ≤ o.replay.maxEntries →
          (o.authorizations bytes past).length ≤ 1 ∨ 0 < o.config.maxClockSkew ∧
            o.authorizations bytes past =
              [o.lastInstant timestamp, o.firstInstant timestamp]) := by
  refine ⟨fun past now address => ?_, authorizesOnce_of_covers hskew hframe,
    fun address count => covers_of_authorizesOnce hskew hframe address,
    fun hrange => ⟨hrange.covers_iff hskew,
      fun past => authorizations_of_inRange hskew hframe hrange⟩⟩
  have h := remembers_reached o past
  rw [← h.secret] at hframe
  rw [authorized_receive_handshake address hframe, h.config]

end Past

/-! ### A captured handshake -/

/-- A handshake that was made two minutes after the server was opened. -/
def captured : MessagingFrame := .handshake 120000 ⟨List.replicate 16 8, List.length_replicate⟩

theorem authentic?_captured : authentic? brief.secret (genuine captured) = some captured :=
  authentic?_genuine trivial

/-- It authorizes twice only in the instant in which the server is opened and four minutes
later. -/
theorem captured_authorizes_at_ends : 0 ≤ brief.config.maxClockSkew ∧
    authentic? brief.secret (genuine captured) = some captured ∧ brief.InRange 120000 ∧
    ∀ past : List (Event Nat), Chronological past → (brief.presentedNonces past).card ≤ 100000 →
      (brief.authorizations (genuine captured) past).length ≤ 1 ∨
        brief.authorizations (genuine captured) past = [240000, 0] := by
  have hskew : 0 ≤ brief.config.maxClockSkew := by decide
  have hrange : brief.InRange 120000 := ⟨by decide, by decide, by decide⟩
  have hfirst : brief.firstInstant 120000 = 0 := by decide
  have hlast : brief.lastInstant 120000 = 240000 := by decide
  refine ⟨hskew, authentic?_captured, hrange, fun past hclock hfew => ?_⟩
  have hends := ((handshake_authorizes_exact brief hskew authentic?_captured).2.2.2 hrange).2
    past hclock hfew
  rw [hfirst, hlast] at hends
  exact hends.imp_right And.right

/-- In these two instants it does authorize twice, and a different address each time, though
nothing else ever comes in.  Two minutes is the skew that is allowed if nothing else is said. -/
theorem captured_authorizes_twice :
    ¬ ∀ (o : Opening) (bytes : Bytes) (past : List (Event Nat)),
      0 ≤ o.config.maxClockSkew → Chronological past →
      (∀ event ∈ past, ∃ address, event.step = .datagram address bytes) →
      (o.presentedNonces past).card < o.replay.maxEntries →
        (o.authorizations bytes past).length ≤ 1 := by
  intro h
  have hskew : 0 ≤ brief.config.maxClockSkew := by decide
  have hover : ¬ brief.Covers 120000 := by
    unfold Covers
    decide
  have honce := h brief (genuine captured) (brief.bothEnds 120000 (genuine captured) 7 8) hskew
    (chronological_bothEnds hskew 7 8) (by simp [bothEnds])
    (by rw [card_presentedNonces_bothEnds hskew authentic?_captured 7 8]; decide)
  rw [authorizations_bothEnds hskew authentic?_captured 7 8 hover] at honce
  simp at honce

end Opening

end DatagramServer

end GameGateway
