import GameGateway.Control.Availability
import GameGateway.Proofs.Saturation
import Mathlib.Data.List.Induction

/-!
# Availability and its history

A tracker keeps three marks for each backend: whether it said that it is offline, until when it
counts as unreachable, and until when its last sign of life lasts.  A later sighting sets some of
them, clears others, or only stands in front of them, while time goes by.

What the marks come to can be read off the history of sightings instead: the backend is online
while its last sign of life lasts, unless it said after that that it is offline or could not be
reached lately (`OnlineBy`).  The proof goes through the history sighting by sighting.  There are
only two ways in which a sighting counts: a sign of life makes a fresh start, and any other
sighting can only take something away (`onlineBy_concat`).  For the marks the same holds, as long
as the clock does not go back: then the last failure to reach a backend is the one whose cooldown
ends last (`lt_cooldown_of_isAhead`).
-/

namespace GameGateway

/-! ## Sightings -/

/-- What can be learned of a backend. -/
inductive SightingKind where
  | reached
  | saidOnline
  | saidOffline
  | unreachable
deriving DecidableEq

/-- Is it a sign of life? -/
def SightingKind.isLife : SightingKind → Bool
  | reached | saidOnline => true
  | saidOffline | unreachable => false

theorem SightingKind.isLife_iff {kind : SightingKind} :
    kind.isLife = true ↔ kind = .reached ∨ kind = .saidOnline := by
  cases kind <;> simp [isLife]

/-- What was learned of a backend, and when. -/
structure BackendSighting where
  time : Millis
  backend : String
  kind : SightingKind
deriving DecidableEq

namespace AvailabilityTracker

/-- The tracker after a sighting. -/
def see (t : AvailabilityTracker) (sighting : BackendSighting) : AvailabilityTracker :=
  match sighting.kind with
  | .reached | .saidOnline => t.markOnline sighting.time sighting.backend
  | .saidOffline => t.markOffline sighting.backend
  | .unreachable => t.markUnavailable sighting.time sighting.backend

/-- The tracker after some sightings, oldest first. -/
def seeAll (t : AvailabilityTracker) (history : List BackendSighting) : AvailabilityTracker :=
  history.foldl see t

/-- The times for which sightings count. -/
structure Spans where
  cooldown : Millis
  heartbeat : Millis

/-- A tracker that knows nothing. -/
def Spans.blank (spans : Spans) : AvailabilityTracker where
  cooldown := spans.cooldown
  heartbeatTimeout := spans.heartbeat

/-- What a sighting counts for ends within the range of instants. -/
def Spans.InRange (spans : Spans) (sighting : BackendSighting) : Prop :=
  match sighting.kind with
  | .reached | .saidOnline => sighting.time.HaveSum spans.heartbeat
  | .saidOffline => True
  | .unreachable => sighting.time.HaveSum spans.cooldown

instance (spans : Spans) : DecidablePred spans.InRange
  | ⟨_, _, .reached⟩ | ⟨_, _, .saidOnline⟩ | ⟨_, _, .unreachable⟩ =>
      inferInstanceAs (Decidable (Millis.HaveSum _ _))
  | ⟨_, _, .saidOffline⟩ => inferInstanceAs (Decidable True)

/-- By its history a backend is online: it gave a sign of life, which was the last one and still
lasts, it has not said since that it is offline, and no failure to reach it since still counts. -/
def Spans.OnlineBy (spans : Spans) (history : List BackendSighting) (backend : String)
    (now : Millis) : Prop :=
  ∃ earlier alive later, history = earlier ++ alive :: later ∧
    (alive.backend = backend ∧ alive.kind.isLife = true) ∧
    (∀ s ∈ later, s.backend = backend → s.kind.isLife = false) ∧
    now.toInt < alive.time.toInt + spans.heartbeat.toInt ∧
    (∀ s ∈ later, s.backend = backend → s.kind ≠ .saidOffline) ∧
    ∀ s ∈ later, s.backend = backend → s.kind = .unreachable →
      ¬ now.toInt < s.time.toInt + spans.cooldown.toInt

/-! ## Histories grow -/

section Histories

variable {spans : Spans} {history : List BackendSighting} {backend : String} {now : Millis}
  {sighting : BackendSighting}

theorem onlineBy_concat_of_life (hbackend : sighting.backend = backend)
    (hlife : sighting.kind.isLife = true) :
    spans.OnlineBy (history ++ [sighting]) backend now ↔
      now.toInt < sighting.time.toInt + spans.heartbeat.toInt := by
  constructor
  · rintro ⟨earlier, alive, later, hsplit, -, hlast, hlasts, -⟩
    rcases later.eq_nil_or_concat with rfl | ⟨rest, final, rfl⟩
    · obtain ⟨-, hsame⟩ := List.append_inj' hsplit rfl
      cases hsame
      exact hlasts
    · -- Nothing that comes after the last sign of life is one.
      rw [List.concat_eq_append, ← List.cons_append, ← List.append_assoc] at hsplit
      obtain ⟨-, hsame⟩ := List.append_inj' hsplit rfl
      cases hsame
      have hdead := hlast sighting (by simp) hbackend
      rw [hlife] at hdead
      cases hdead
  · intro hlasts
    exact ⟨history, sighting, [], rfl, ⟨hbackend, hlife⟩, nofun, hlasts, nofun, nofun⟩

theorem onlineBy_concat (hother : ¬ (sighting.backend = backend ∧ sighting.kind.isLife = true)) :
    spans.OnlineBy (history ++ [sighting]) backend now ↔ spans.OnlineBy history backend now ∧
      (sighting.backend = backend → sighting.kind ≠ .saidOffline ∧
        (sighting.kind = .unreachable →
          ¬ now.toInt < sighting.time.toInt + spans.cooldown.toInt)) := by
  constructor
  · rintro ⟨earlier, alive, later, hsplit, halive, hlast, hlasts, hsaid, hreached⟩
    rcases later.eq_nil_or_concat with rfl | ⟨rest, final, rfl⟩
    · obtain ⟨-, hsame⟩ := List.append_inj' hsplit rfl
      cases hsame
      exact absurd halive hother
    · rw [List.concat_eq_append] at hsplit hlast hsaid hreached
      rw [← List.cons_append, ← List.append_assoc] at hsplit
      obtain ⟨rfl, hsame⟩ := List.append_inj' hsplit rfl
      cases hsame
      refine ⟨⟨earlier, alive, rest, rfl, halive, ?_, hlasts, ?_, ?_⟩, fun hbackend =>
        ⟨hsaid sighting (by simp) hbackend, hreached sighting (by simp) hbackend⟩⟩
      · exact fun s hs => hlast s (List.mem_append_left _ hs)
      · exact fun s hs => hsaid s (List.mem_append_left _ hs)
      · exact fun s hs => hreached s (List.mem_append_left _ hs)
  · rintro ⟨⟨earlier, alive, later, rfl, halive, hlast, hlasts, hsaid, hreached⟩, hnew⟩
    have hconcat : ∀ {P : BackendSighting → Prop}, (∀ s ∈ later, s.backend = backend → P s) →
        (sighting.backend = backend → P sighting) →
        ∀ s ∈ later ++ [sighting], s.backend = backend → P s := by
      intro P hlater hfinal s hs
      rcases List.mem_append.mp hs with hs | hs
      · exact hlater s hs
      · cases List.mem_singleton.mp hs
        exact hfinal
    refine ⟨earlier, alive, later ++ [sighting], by simp, halive, hconcat hlast ?_, hlasts,
      hconcat hsaid fun hbackend => (hnew hbackend).1,
      hconcat hreached fun hbackend => (hnew hbackend).2⟩
    intro hbackend
    exact Bool.eq_false_iff.mpr fun hlife => hother ⟨hbackend, hlife⟩

end Histories

/-! ## Marks -/

/-- The marks that a sighting leaves on those of its backend. -/
def Spans.mark (spans : Spans) (sighting : BackendSighting) (signs : BackendSigns) : BackendSigns :=
  match sighting.kind with
  | .reached | .saidOnline =>
      { reportedOffline := false
        unavailableUntil := none
        onlineUntil := some (sighting.time + spans.heartbeat) }
  | .saidOffline => { signs with reportedOffline := true, onlineUntil := none }
  | .unreachable => { signs with unavailableUntil := some (sighting.time + spans.cooldown) }

/-- What marks come to. -/
def verdict (signs : BackendSigns) (now : Millis) : Availability :=
  if signs.reportedOffline || isAhead now signs.unavailableUntil then .offline
  else if isAhead now signs.onlineUntil then .online
  else .offline

theorem verdict_ne_unknown (signs : BackendSigns) (now : Millis) :
    verdict signs now ≠ .unknown := by
  unfold verdict
  split
  · nofun
  · split <;> nofun

theorem verdict_eq_online_iff {signs : BackendSigns} {now : Millis} :
    verdict signs now = .online ↔ signs.reportedOffline = false ∧
      isAhead now signs.unavailableUntil = false ∧ isAhead now signs.onlineUntil = true := by
  unfold verdict
  split
  · rename_i hmarked
    rw [Bool.or_eq_true] at hmarked
    constructor
    · nofun
    · rintro ⟨hsaid, hreached, -⟩
      rw [hsaid, hreached] at hmarked
      rcases hmarked with h | h <;> cases h
  · rename_i hunmarked
    obtain ⟨hsaid, hreached⟩ := Bool.or_eq_false_iff.mp (Bool.eq_false_iff.mpr hunmarked)
    split
    · rename_i hlasts
      exact ⟨fun _ => ⟨hsaid, hreached, hlasts⟩, fun _ => rfl⟩
    · rename_i hover
      exact ⟨nofun, fun h => absurd h.2.2 hover⟩

/-- The tracker works with these times. -/
structure Follows (t : AvailabilityTracker) (spans : Spans) : Prop where
  cooldown : t.cooldown = spans.cooldown
  heartbeat : t.heartbeatTimeout = spans.heartbeat

section Marks

variable {spans : Spans} {t : AvailabilityTracker} {history : List BackendSighting}
  {backend : String} {now : Millis} {sighting : BackendSighting} {signs : BackendSigns}

theorem status_of_none (h : t.signs.get? backend = none) : t.status now backend = .unknown := by
  rw [status, h]

theorem status_of_some (h : t.signs.get? backend = some signs) :
    t.status now backend = verdict signs now := by
  rw [status, h]
  rfl

theorem status_eq_unknown_iff : t.status now backend = .unknown ↔ t.signs.get? backend = none := by
  cases hsigns : t.signs.get? backend with
  | none => simp [status_of_none hsigns]
  | some signs => simp [status_of_some hsigns, verdict_ne_unknown]

theorem get?_change (t : AvailabilityTracker) (key : String) (f : BackendSigns → BackendSigns) :
    (t.change key f).signs.get? backend =
      if backend = key then some (f ((t.signs.get? key).getD {})) else t.signs.get? backend :=
  Table.get?_insert _ _ _ _

theorem Follows.see (h : t.Follows spans) (sighting : BackendSighting) :
    (t.see sighting).Follows spans := by
  unfold AvailabilityTracker.see
  split <;> exact ⟨h.cooldown, h.heartbeat⟩

/-- A sighting changes the marks of its backend and no others. -/
theorem Follows.get?_see (h : t.Follows spans) (sighting : BackendSighting) :
    (t.see sighting).signs.get? backend =
      if backend = sighting.backend then
        some (spans.mark sighting ((t.signs.get? sighting.backend).getD {}))
      else t.signs.get? backend := by
  unfold AvailabilityTracker.see Spans.mark
  split
  · rw [← h.heartbeat]
    exact get?_change ..
  · rw [← h.heartbeat]
    exact get?_change ..
  · exact get?_change ..
  · rw [← h.cooldown]
    exact get?_change ..

theorem seeAll_append (t : AvailabilityTracker) (history later : List BackendSighting) :
    t.seeAll (history ++ later) = (t.seeAll history).seeAll later :=
  List.foldl_append

theorem seeAll_concat (t : AvailabilityTracker) (history : List BackendSighting)
    (sighting : BackendSighting) :
    t.seeAll (history ++ [sighting]) = (t.seeAll history).see sighting :=
  t.seeAll_append history [sighting]

theorem Follows.seeAll (h : t.Follows spans) (history : List BackendSighting) :
    (t.seeAll history).Follows spans := by
  induction history using List.reverseRecOn with
  | nil => exact h
  | append_singleton history sighting ih =>
      rw [seeAll_concat]
      exact ih.see sighting

theorem Spans.follows_blank (spans : Spans) : spans.blank.Follows spans := ⟨rfl, rfl⟩

theorem get?_seeAll_concat (spans : Spans) (history : List BackendSighting)
    (sighting : BackendSighting) (backend : String) :
    (spans.blank.seeAll (history ++ [sighting])).signs.get? backend =
      if backend = sighting.backend then
        some (spans.mark sighting
          (((spans.blank.seeAll history).signs.get? sighting.backend).getD {}))
      else (spans.blank.seeAll history).signs.get? backend := by
  rw [seeAll_concat]
  exact (spans.follows_blank.seeAll history).get?_see sighting

/-! ## Marks and histories -/

/-- Nothing is marked on a backend that was never sighted. -/
theorem get?_seeAll_eq_none_iff : (spans.blank.seeAll history).signs.get? backend = none ↔
    ∀ s ∈ history, s.backend ≠ backend := by
  induction history using List.reverseRecOn with
  | nil => simp [seeAll, Spans.blank]
  | append_singleton history sighting ih =>
      rw [get?_seeAll_concat]
      by_cases hbackend : backend = sighting.backend
      · rw [if_pos hbackend]
        constructor
        · intro hmarks
          cases hmarks
        · intro hnone
          exact absurd hbackend.symm (hnone sighting (by simp))
      · rw [if_neg hbackend, ih]
        simp [or_imp, forall_and, Ne.symm hbackend]

/-- The marks of a backend depend on the sightings of that backend only. -/
theorem get?_seeAll_filter (spans : Spans) (history : List BackendSighting) (backend : String) :
    (spans.blank.seeAll (history.filter fun s => s.backend = backend)).signs.get? backend =
      (spans.blank.seeAll history).signs.get? backend := by
  induction history using List.reverseRecOn with
  | nil => rfl
  | append_singleton history sighting ih =>
      rw [List.filter_append, get?_seeAll_concat]
      by_cases hbackend : sighting.backend = backend
      · subst hbackend
        rw [List.filter_cons_of_pos (by simp), List.filter_nil, get?_seeAll_concat, if_pos rfl,
          if_pos rfl, ih]
      · rw [List.filter_cons_of_neg (by simpa using hbackend), List.filter_nil, List.append_nil,
          ih, if_neg (Ne.symm hbackend)]

/-- A cooldown is always that of some failure to reach the backend. -/
theorem unavailableUntil_seeAll
    (hsigns : (spans.blank.seeAll history).signs.get? backend = some signs) {deadline : Millis}
    (huntil : signs.unavailableUntil = some deadline) :
    ∃ s ∈ history, s.backend = backend ∧ s.kind = .unreachable ∧
      deadline = s.time + spans.cooldown := by
  induction history using List.reverseRecOn generalizing signs with
  | nil => cases hsigns
  | append_singleton history sighting ih =>
      rw [get?_seeAll_concat] at hsigns
      have hearlier : ∀ {signs}, (spans.blank.seeAll history).signs.get? backend = some signs →
          signs.unavailableUntil = some deadline → ∃ s ∈ history ++ [sighting],
            s.backend = backend ∧ s.kind = .unreachable ∧ deadline = s.time + spans.cooldown := by
        intro signs hsigns huntil
        obtain ⟨s, hs, hfound⟩ := ih hsigns huntil
        exact ⟨s, List.mem_append_left _ hs, hfound⟩
      split at hsigns
      · rename_i hbackend
        cases hsigns
        -- Only two kinds of sightings leave a cooldown: one of its own, or the one before.
        unfold Spans.mark at huntil
        split at huntil
        · cases huntil
        · cases huntil
        · rw [← hbackend] at huntil
          cases hbefore : (spans.blank.seeAll history).signs.get? backend with
          | none =>
              rw [hbefore] at huntil
              cases huntil
          | some before =>
              rw [hbefore] at huntil
              exact hearlier hbefore huntil
        · rename_i hkind
          cases huntil
          exact ⟨sighting, by simp, hbackend.symm, hkind, rfl⟩
      · exact hearlier hsigns huntil

/-! ## What marks come to -/

theorem mark_of_life (hlife : sighting.kind.isLife = true) :
    spans.mark sighting signs = { onlineUntil := some (sighting.time + spans.heartbeat) } := by
  rcases SightingKind.isLife_iff.mp hlife with hkind | hkind
  · rw [Spans.mark, hkind]
  · rw [Spans.mark, hkind]

theorem haveSum_of_life (hrange : spans.InRange sighting) (hlife : sighting.kind.isLife = true) :
    sighting.time.HaveSum spans.heartbeat := by
  rcases SightingKind.isLife_iff.mp hlife with hkind | hkind
  · rwa [Spans.InRange, hkind] at hrange
  · rwa [Spans.InRange, hkind] at hrange

theorem haveSum_of_unreachable (hrange : spans.InRange sighting)
    (hkind : sighting.kind = .unreachable) : sighting.time.HaveSum spans.cooldown := by
  rwa [Spans.InRange, hkind] at hrange

theorem verdict_mark_of_life (hlife : sighting.kind.isLife = true) :
    verdict (spans.mark sighting signs) now = .online ↔
      now < sighting.time + spans.heartbeat := by
  rw [mark_of_life hlife, verdict_eq_online_iff]
  simp [isAhead]

theorem verdict_mark_of_saidOffline (hkind : sighting.kind = .saidOffline) :
    verdict (spans.mark sighting signs) now ≠ .online := by
  rw [Spans.mark, hkind, ne_eq, verdict_eq_online_iff]
  rintro ⟨hsaid, -⟩
  cases hsaid

/-- A failure to reach a backend hides the one before it, which is not seen where the cooldown of
the new one ends no earlier. -/
theorem verdict_mark_of_unreachable (hrange : spans.InRange sighting)
    (hkind : sighting.kind = .unreachable)
    (hcovered : isAhead now signs.unavailableUntil = true →
      now.toInt < sighting.time.toInt + spans.cooldown.toInt) :
    verdict (spans.mark sighting signs) now = .online ↔ verdict signs now = .online ∧
      ¬ now.toInt < sighting.time.toInt + spans.cooldown.toInt := by
  have hsum := haveSum_of_unreachable hrange hkind
  have hmark : spans.mark sighting signs =
      { signs with unavailableUntil := some (sighting.time + spans.cooldown) } := by
    rw [Spans.mark, hkind]
  have hahead : isAhead now (some (sighting.time + spans.cooldown)) = false ↔
      ¬ now.toInt < sighting.time.toInt + spans.cooldown.toInt := by
    rw [← hsum.lt_add_iff]
    exact decide_eq_false_iff_not
  rw [hmark, verdict_eq_online_iff, verdict_eq_online_iff]
  dsimp only
  rw [hahead]
  constructor
  · rintro ⟨hsaid, hover, hlasts⟩
    exact ⟨⟨hsaid, Bool.eq_false_iff.mpr fun h => hover (hcovered h), hlasts⟩, hover⟩
  · rintro ⟨⟨hsaid, -, hlasts⟩, hover⟩
    exact ⟨hsaid, hover, hlasts⟩

/-- As long as the clock does not go back, no cooldown ends after that of a new failure. -/
theorem lt_cooldown_of_isAhead (hclock : ∀ s ∈ history, s.time ≤ sighting.time)
    (hrange : ∀ s ∈ history, s.backend = backend → spans.InRange s)
    (hsigns : (spans.blank.seeAll history).signs.get? backend = some signs)
    (hahead : isAhead now signs.unavailableUntil = true) :
    now.toInt < sighting.time.toInt + spans.cooldown.toInt := by
  cases hdeadline : signs.unavailableUntil with
  | none =>
      rw [hdeadline] at hahead
      cases hahead
  | some deadline =>
      obtain ⟨s, hs, hbackend, hkind, rfl⟩ := unavailableUntil_seeAll hsigns hdeadline
      have hsum := haveSum_of_unreachable (hrange s hs hbackend) hkind
      have hearlier : s.time.toInt ≤ sighting.time.toInt :=
        Int64.le_iff_toInt_le.mp (hclock s hs)
      rw [hdeadline] at hahead
      have hlt : now.toInt < s.time.toInt + spans.cooldown.toInt :=
        hsum.lt_add_iff.mp (of_decide_eq_true hahead)
      omega

/-- A sighting that is not a sign of life can only take something away. -/
theorem status_see_eq_online_iff (hclock : ∀ s ∈ history, s.time ≤ sighting.time)
    (hrange : ∀ s ∈ history, s.backend = backend → spans.InRange s)
    (hfinal : sighting.backend = backend → spans.InRange sighting)
    (hother : ¬ (sighting.backend = backend ∧ sighting.kind.isLife = true)) :
    (spans.blank.seeAll (history ++ [sighting])).status now backend = .online ↔
      (spans.blank.seeAll history).status now backend = .online ∧
        (sighting.backend = backend → sighting.kind ≠ .saidOffline ∧
          (sighting.kind = .unreachable →
            ¬ now.toInt < sighting.time.toInt + spans.cooldown.toInt)) := by
  have hsee := get?_seeAll_concat spans history sighting backend
  by_cases hbackend : sighting.backend = backend
  · subst hbackend
    rw [if_pos rfl] at hsee
    rw [status_of_some hsee]
    cases hkind : sighting.kind with
    | reached => exact absurd ⟨rfl, by rw [hkind]; rfl⟩ hother
    | saidOnline => exact absurd ⟨rfl, by rw [hkind]; rfl⟩ hother
    | saidOffline =>
        simp [verdict_mark_of_saidOffline hkind]
    | unreachable =>
        cases hsigns : (spans.blank.seeAll history).signs.get? sighting.backend with
        | none =>
            have hnone : isAhead now ({} : BackendSigns).unavailableUntil = true →
                now.toInt < sighting.time.toInt + spans.cooldown.toInt :=
              fun hnone => absurd hnone Bool.false_ne_true
            have hblank : verdict {} now = .offline := rfl
            rw [status_of_none hsigns, Option.getD_none,
              verdict_mark_of_unreachable (hfinal rfl) hkind hnone]
            simp [hblank]
        | some signs =>
            rw [status_of_some hsigns, Option.getD_some,
              verdict_mark_of_unreachable (hfinal rfl) hkind
                (lt_cooldown_of_isAhead hclock hrange hsigns)]
            simp
  · rw [if_neg (Ne.symm hbackend)] at hsee
    rw [status, hsee, ← status]
    simp [hbackend]

/-- Sightings of other backends leave the marks of a backend as they are. -/
theorem get?_seeAll_of_ne (hother : ∀ s ∈ history, s.backend ≠ backend) :
    (t.seeAll history).signs.get? backend = t.signs.get? backend := by
  induction history using List.reverseRecOn with
  | nil => rfl
  | append_singleton history sighting ih =>
      have hfollows : t.Follows ⟨t.cooldown, t.heartbeatTimeout⟩ := ⟨rfl, rfl⟩
      rw [seeAll_concat, (hfollows.seeAll history).get?_see,
        if_neg (Ne.symm (hother sighting (by simp)))]
      exact ih fun s hs => hother s (List.mem_append_left _ hs)

/-- The last sign of life, with nothing after it, is all that counts. -/
theorem status_seeAll_of_life (t : AvailabilityTracker) (earlier : List BackendSighting)
    {alive : BackendSighting} (hlife : alive.kind.isLife = true) {later : List BackendSighting}
    (hlater : ∀ s ∈ later, s.backend ≠ alive.backend) (now : Millis) :
    (t.seeAll (earlier ++ alive :: later)).status now alive.backend = .online ↔
      now < alive.time + t.heartbeatTimeout := by
  have hfollows : t.Follows ⟨t.cooldown, t.heartbeatTimeout⟩ := ⟨rfl, rfl⟩
  have hsigns : (t.seeAll (earlier ++ alive :: later)).signs.get? alive.backend =
      some (Spans.mark ⟨t.cooldown, t.heartbeatTimeout⟩ alive
        (((t.seeAll earlier).signs.get? alive.backend).getD {})) := by
    rw [List.append_cons, seeAll_append, get?_seeAll_of_ne hlater, seeAll_concat,
      (hfollows.seeAll earlier).get?_see, if_pos rfl]
  rw [status_of_some hsigns, verdict_mark_of_life hlife]

/-- Marks and history agree on who is online. -/
theorem status_seeAll_eq_online_iff (hclock : history.Pairwise fun a b => a.time ≤ b.time)
    (hrange : ∀ s ∈ history, s.backend = backend → spans.InRange s) :
    (spans.blank.seeAll history).status now backend = .online ↔
      spans.OnlineBy history backend now := by
  induction history using List.reverseRecOn with
  | nil =>
      constructor
      · nofun
      · rintro ⟨earlier, alive, later, hsplit, -⟩
        simp at hsplit
  | append_singleton history sighting ih =>
      obtain ⟨hearlier, -, hlast⟩ := List.pairwise_append.mp hclock
      have hbefore : ∀ s ∈ history, s.time ≤ sighting.time := fun s hs =>
        hlast s hs sighting (List.mem_singleton_self _)
      have hrangeEarlier : ∀ s ∈ history, s.backend = backend → spans.InRange s := fun s hs =>
        hrange s (List.mem_append_left _ hs)
      have hfinal := hrange sighting (List.mem_append_right _ (List.mem_singleton_self _))
      by_cases hlife : sighting.backend = backend ∧ sighting.kind.isLife = true
      · obtain ⟨rfl, hlife⟩ := hlife
        have hsee := get?_seeAll_concat spans history sighting sighting.backend
        rw [if_pos rfl] at hsee
        rw [status_of_some hsee, verdict_mark_of_life hlife,
          (haveSum_of_life (hfinal rfl) hlife).lt_add_iff, onlineBy_concat_of_life rfl hlife]
      · rw [status_see_eq_online_iff hbefore hrangeEarlier hfinal hlife,
          onlineBy_concat hlife, ih hearlier hrangeEarlier]

/-- **Availability is the history of sightings.**  Whatever was sighted of whichever backends, as
long as the clock did not go back: of a backend nothing is known exactly if it was never sighted,
it is online exactly if it is online by its history, and it is offline otherwise.  Sightings of
other backends never matter. -/
theorem status_eq_of_history (spans : Spans) (history : List BackendSighting) (backend : String)
    (now : Millis) (hclock : history.Pairwise fun a b => a.time ≤ b.time)
    (hrange : ∀ s ∈ history, s.backend = backend → spans.InRange s) :
    ((spans.blank.seeAll history).status now backend = .unknown ↔
        ∀ s ∈ history, s.backend ≠ backend) ∧
      ((spans.blank.seeAll history).status now backend = .online ↔
        spans.OnlineBy history backend now) ∧
      ((spans.blank.seeAll history).status now backend = .offline ↔
        (∃ s ∈ history, s.backend = backend) ∧ ¬ spans.OnlineBy history backend now) ∧
      (spans.blank.seeAll (history.filter fun s => s.backend = backend)).status now backend =
        (spans.blank.seeAll history).status now backend := by
  have hunknown : (spans.blank.seeAll history).status now backend = .unknown ↔
      ∀ s ∈ history, s.backend ≠ backend :=
    status_eq_unknown_iff.trans get?_seeAll_eq_none_iff
  have honline : (spans.blank.seeAll history).status now backend = .online ↔
      spans.OnlineBy history backend now := status_seeAll_eq_online_iff hclock hrange
  refine ⟨hunknown, honline, ?_, ?_⟩
  · have hsighted : (∃ s ∈ history, s.backend = backend) ↔
        ¬ (spans.blank.seeAll history).status now backend = .unknown := by
      rw [hunknown]
      push Not
      rfl
    rw [hsighted, ← honline]
    cases (spans.blank.seeAll history).status now backend <;> simp
  · rw [status, status, get?_seeAll_filter]

end Marks

/-- A lobby goes down, comes back and cannot be reached for a moment, while an arena is reached. -/
def outage : List BackendSighting :=
  [⟨0, "lobby", .reached⟩, ⟨1000, "lobby", .saidOffline⟩, ⟨2000, "lobby", .saidOnline⟩,
    ⟨3000, "lobby", .unreachable⟩, ⟨3500, "arena", .reached⟩]

theorem status_after_outage :
    ¬ Spans.OnlineBy ⟨2000, 15000⟩ outage "lobby" 4000 ∧
      Spans.OnlineBy ⟨2000, 15000⟩ outage "lobby" 6000 ∧
      ((Spans.blank ⟨2000, 15000⟩).seeAll (outage.filter fun s => s.backend = "lobby")).status
        6000 "lobby" = .online := by
  obtain ⟨-, hdown, -, -⟩ := status_eq_of_history ⟨2000, 15000⟩ outage "lobby" 4000
    (by decide) (by decide)
  obtain ⟨-, hup, -, hfilter⟩ := status_eq_of_history ⟨2000, 15000⟩ outage "lobby" 6000
    (by decide) (by decide)
  have honline : ((Spans.blank ⟨2000, 15000⟩).seeAll outage).status 6000 "lobby" = .online := by
    decide +kernel
  have hoffline : ((Spans.blank ⟨2000, 15000⟩).seeAll outage).status 4000 "lobby" ≠ .online := by
    decide +kernel
  exact ⟨fun h => hoffline (hdown.mpr h), hup.mp honline, hfilter.trans honline⟩

end AvailabilityTracker

end GameGateway
