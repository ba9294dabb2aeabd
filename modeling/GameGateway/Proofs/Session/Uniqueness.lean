import GameGateway.Proofs.Session.WellKept

/-!
# One registered session for each player

The registry takes calls in any order: a session may be bound before it is registered or
after it is removed, bound again, or bound to a player who has another one.  Then the index
has entries to sessions that are gone, and entries of players whose session has since been
bound to somebody else.  One thing is never lost (`Indexed`): for the player that a
registered session has, the index has that session.

Two sessions of one player would need two entries under one key.  The other half is a fact
about each session by itself: once registered, it is registered for ever or disconnected
for ever (`StaysOrEnds`).
-/

namespace GameGateway

/-- One call on a registry. -/
inductive RegistryCall where
  | create
  /-- Somebody makes a session without registering it. -/
  | foreign (session : Session)
  | bindPlayer (id : SessionId) (player : Uuid)
  | remove (id : SessionId)
  | become (id : SessionId) (next : SessionState)

namespace SessionRegistry

/-- The registry after a call. -/
def perform (r : SessionRegistry) : RegistryCall → SessionRegistry
  | .create => r.create.2
  | .foreign session => (r.add session false).2
  | .bindPlayer id player => (r.bindPlayer id player).2
  | .remove id => (r.remove id).2
  | .become id next => (r.become id next).2

/-- The registry after some calls on an empty one. -/
def after (calls : List RegistryCall) : SessionRegistry := calls.foldl perform {}

theorem after_append (earlier later : List RegistryCall) :
    after (earlier ++ later) = later.foldl perform (after earlier) :=
  List.foldl_append

variable {r : SessionRegistry} {id key : SessionId} {player : Uuid} {session session' : Session}

/-! ## What the calls do to the registered sessions -/

theorem get_add_eq_ok_iff {registered : Bool} :
    (r.add session registered).2.get key = .ok session' ↔
      if key = ⟨r.nextNumber⟩ then registered = true ∧ session' = session
      else r.get key = .ok session' := by
  rw [get_eq_ok_iff, session?_add, add, isRegistered, Table.get?_insert]
  split
  · simp [and_comm, eq_comm]
  · rw [get_eq_ok_iff]
    rfl

theorem get_update_eq_ok_iff {f : Session → Session} :
    (r.update id f).get key = .ok session' ↔ ∃ session, r.get key = .ok session ∧
      session' = if key = id then f session else session := by
  simp only [get_eq_ok_iff, isRegistered_update, session?_update]
  by_cases hkey : key = id
  · simp only [if_pos hkey, Option.map_eq_some_iff]
    constructor
    · rintro ⟨⟨old, hold, rfl⟩, hregistered⟩
      exact ⟨old, ⟨hold, hregistered⟩, rfl⟩
    · rintro ⟨old, ⟨hold, hregistered⟩, rfl⟩
      exact ⟨⟨old, hold, rfl⟩, hregistered⟩
  · simp only [if_neg hkey]
    constructor
    · intro h
      exact ⟨session', h, rfl⟩
    · rintro ⟨old, hold, rfl⟩
      exact hold

theorem isRegistered_retire (r : SessionRegistry) (id : SessionId) :
    (r.retire id).isRegistered id = false := by
  unfold retire isRegistered
  rw [Table.get?_update, if_pos rfl]
  cases r.entries.get? id with
  | none => rfl
  | some entry => rfl

theorem get_retire_eq_ok_iff :
    (r.retire id).get key = .ok session' ↔ key ≠ id ∧ r.get key = .ok session' := by
  rw [get_eq_ok_iff, get_eq_ok_iff]
  by_cases hkey : key = id
  · subst hkey
    simp [isRegistered_retire]
  · rw [session?_retire, if_neg hkey, isRegistered_retire_of_ne hkey]
    simp [hkey]

theorem get_forget (r : SessionRegistry) (id key : SessionId) (owner : Option Uuid) :
    (r.forget id owner).get key = r.get key := by
  rw [get, get, entries_forget]

theorem get_remove_eq_ok_iff :
    (r.remove id).2.get key = .ok session' ↔ key ≠ id ∧ r.get key = .ok session' := by
  unfold remove
  split
  · rw [get_retire_eq_ok_iff, get_forget]
  · rename_i hgone
    constructor
    · intro h
      refine ⟨?_, h⟩
      rintro rfl
      rw [hgone] at h
      cases h
    · intro h
      exact h.2

/-- The registry with the player given to a session, and the index entry with it. -/
def assign (r : SessionRegistry) (id : SessionId) (player : Uuid) : SessionRegistry :=
  { r.update id (fun session => { session with player := some player }) with
    byPlayer := r.byPlayer.insert player id }

theorem session?_assign (r : SessionRegistry) (id key : SessionId) (player : Uuid) :
    (r.assign id player).session? key = (r.update id fun session =>
      { session with player := some player }).session? key := rfl

theorem isRegistered_assign (r : SessionRegistry) (id key : SessionId) (player : Uuid) :
    (r.assign id player).isRegistered key = r.isRegistered key :=
  isRegistered_update r id key fun session => { session with player := some player }

theorem get_assign_eq_ok_iff : (r.assign id player).get key = .ok session' ↔
    ∃ session, r.get key = .ok session ∧
      session' = if key = id then { session with player := some player } else session :=
  get_update_eq_ok_iff (f := fun session => { session with player := some player })

/-- A session is bound, and the registered session that the index had for the player is taken
out, unless it is the same. -/
theorem bindPlayer_cases (r : SessionRegistry) (id : SessionId) (player : Uuid) :
    (r.bindPlayer id player = (none, r.assign id player) ∧ ∀ previous,
        r.byPlayer.get? player = some previous → previous = id ∨ r.isRegistered previous = false) ∨
      ∃ previous, r.byPlayer.get? player = some previous ∧ previous ≠ id ∧
        r.isRegistered previous = true ∧
        r.bindPlayer id player = (some previous, (r.assign id player).retire previous) := by
  have hregistered := fun previous => isRegistered_assign r id previous player
  unfold bindPlayer
  cases hindex : r.byPlayer.get? player with
  | none => exact .inl ⟨rfl, nofun⟩
  | some previous =>
      dsimp only
      split
      · rename_i hdisplaced
        exact .inr
          ⟨previous, rfl, hdisplaced.1, (hregistered previous).symm.trans hdisplaced.2, rfl⟩
      · rename_i hkept
        refine .inl ⟨rfl, fun other hother => ?_⟩
        cases hother
        by_cases hsame : previous = id
        · exact .inl hsame
        · refine .inr (Bool.eq_false_iff.mpr fun htrue => hkept ⟨hsame, ?_⟩)
          exact (hregistered previous).trans htrue

theorem byPlayer_bindPlayer (r : SessionRegistry) (id : SessionId) (player : Uuid) :
    (r.bindPlayer id player).2.byPlayer = r.byPlayer.insert player id := by
  rcases r.bindPlayer_cases id player with ⟨hbound, -⟩ | ⟨previous, -, -, -, hbound⟩
  · rw [hbound]
    rfl
  · rw [hbound]
    rfl

/-- The session that the index had for the player is registered no more, unless it is the one
that is bound. -/
theorem get_of_bindPlayer (h : (r.bindPlayer id player).2.get key = .ok session') :
    (r.byPlayer.get? player = some key → key = id) ∧ ∃ session, r.get key = .ok session ∧
      session' = if key = id then { session with player := some player } else session := by
  rcases r.bindPlayer_cases id player with ⟨hbound, hgone⟩ | ⟨previous, hindex, -, -, hbound⟩
  · rw [hbound] at h
    obtain ⟨session, hsession, hsession'⟩ := get_assign_eq_ok_iff.mp h
    refine ⟨fun hindex => ?_, session, hsession, hsession'⟩
    rcases hgone key hindex with hsame | hunregistered
    · exact hsame
    · rw [(get_eq_ok_iff.mp hsession).2] at hunregistered
      cases hunregistered
  · rw [hbound, get_retire_eq_ok_iff] at h
    obtain ⟨session, hsession, hsession'⟩ := get_assign_eq_ok_iff.mp h.2
    refine ⟨fun hother => ?_, session, hsession, hsession'⟩
    rw [hindex] at hother
    cases hother
    exact absurd rfl h.1

theorem become_cases (r : SessionRegistry) (id : SessionId) (next : SessionState) :
    (r.become id next).2 = r ∨ ∃ session session', r.session? id = some session ∧
      session'.player = session.player ∧
      (session.state = .disconnected → session'.state = .disconnected) ∧
      (r.become id next).2 = r.update id fun _ => session' := by
  unfold become
  split
  · exact .inl rfl
  · rename_i session hsession
    split
    · rename_i changed session' hbecome
      refine .inr ⟨session, session', hsession, ?_, Session.disconnected_of_become hbecome, rfl⟩
      rw [(Session.become_eq_ok hbecome).1]
    · exact .inl rfl

/-! ## The index has the registered sessions -/

/-- Sessions have numbers below the next one, and the index has each registered session under
its player. -/
structure Indexed (r : SessionRegistry) : Prop where
  numbered : ∀ id session, r.session? id = some session → id.number < r.nextNumber
  indexed : ∀ id session player, r.get id = .ok session → session.player = some player →
    r.byPlayer.get? player = some id

theorem indexed_empty : Indexed {} where
  numbered _ _ h := by cases h
  indexed _ _ _ h := by cases h

namespace Indexed

theorem ne_next (h : r.Indexed) (hsession : r.session? id = some session) :
    id ≠ ⟨r.nextNumber⟩ := by
  rintro rfl
  exact Nat.lt_irrefl _ (h.numbered _ _ hsession)

/-- Only a session without a player is registered as it is added. -/
protected theorem add (h : r.Indexed) {registered : Bool}
    (hplayer : registered = true → session.player = none) :
    (r.add session registered).2.Indexed where
  numbered key session' hsession' := by
    show key.number < r.nextNumber + 1
    rw [session?_add] at hsession'
    split at hsession'
    · rename_i hkey
      rw [hkey]
      exact Nat.lt_succ_self _
    · exact Nat.lt_succ_of_lt (h.numbered _ _ hsession')
  indexed key session' player hsession' howner := by
    rw [get_add_eq_ok_iff] at hsession'
    split at hsession'
    · obtain ⟨hregistered, rfl⟩ := hsession'
      rw [hplayer hregistered] at howner
      cases howner
    · exact h.indexed _ _ _ hsession' howner

theorem numbered_update (h : r.Indexed) (f : Session → Session)
    (hsession' : (r.update id f).session? key = some session') : key.number < r.nextNumber := by
  rw [session?_update] at hsession'
  split at hsession'
  · obtain ⟨session, hsession, -⟩ := Option.map_eq_some_iff.mp hsession'
    exact h.numbered _ _ hsession
  · exact h.numbered _ _ hsession'

protected theorem bindPlayer (h : r.Indexed) (id : SessionId) (player : Uuid) :
    (r.bindPlayer id player).2.Indexed where
  numbered key session' hsession' := by
    rcases r.bindPlayer_cases id player with ⟨hbound, -⟩ | ⟨previous, -, -, -, hbound⟩
    · rw [hbound] at hsession' ⊢
      rw [session?_assign] at hsession'
      exact h.numbered_update _ hsession'
    · rw [hbound] at hsession' ⊢
      obtain ⟨session, hsession, -⟩ := session?_of_retire hsession'
      rw [session?_assign] at hsession
      exact h.numbered_update _ hsession
  indexed key session' owner hsession' howner := by
    obtain ⟨hdisplaced, session, hsession, rfl⟩ := get_of_bindPlayer hsession'
    rw [byPlayer_bindPlayer, Table.get?_insert]
    by_cases hkey : key = id
    · -- The session that is bound has the player whose entry was made for it.
      rw [if_pos hkey] at howner
      cases howner
      rw [if_pos rfl, hkey]
    · -- Any other session had its entry before, and it was not the player's.
      rw [if_neg hkey] at howner
      have hindex := h.indexed _ _ _ hsession howner
      rw [if_neg]
      · exact hindex
      · rintro rfl
        exact hkey (hdisplaced hindex)

protected theorem remove (h : r.Indexed) (id : SessionId) : (r.remove id).2.Indexed where
  numbered key session' hsession' := by
    rcases r.remove_eq id with hsame | ⟨owner, hremoved⟩
    · rw [hsame] at hsession' ⊢
      exact h.numbered _ _ hsession'
    · rw [hremoved] at hsession' ⊢
      obtain ⟨session, hsession, -⟩ := session?_of_retire hsession'
      rw [session?_forget] at hsession
      exact Nat.lt_of_lt_of_eq (h.numbered _ _ hsession) (nextNumber_forget r id owner).symm
  indexed key session' player hsession' howner := by
    obtain ⟨hne, hsession⟩ := get_remove_eq_ok_iff.mp hsession'
    have hindex := h.indexed _ _ _ hsession howner
    rcases r.remove_eq id with hsame | ⟨owner, hremoved⟩
    · rw [hsame]
      exact hindex
    · rw [hremoved]
      exact byPlayer_forget hne hindex

protected theorem become (h : r.Indexed) (id : SessionId) (next : SessionState) :
    (r.become id next).2.Indexed := by
  rcases r.become_cases id next with hsame | ⟨old, new, hold, hplayer, -, hmoved⟩
  · rw [hsame]
    exact h
  rw [hmoved]
  refine ⟨fun key session' hsession' => h.numbered_update _ hsession', ?_⟩
  intro key session' player hsession' howner
  obtain ⟨session, hsession, rfl⟩ := get_update_eq_ok_iff.mp hsession'
  refine h.indexed key session player hsession ?_
  by_cases hkey : key = id
  · rw [if_pos hkey, hplayer] at howner
    rw [hkey, get_eq_ok_iff, hold] at hsession
    cases hsession.1
    exact howner
  · rw [if_neg hkey] at howner
    exact howner

protected theorem perform (h : r.Indexed) (call : RegistryCall) : (r.perform call).Indexed := by
  cases call with
  | create => exact h.add fun _ => rfl
  | foreign session => exact h.add nofun
  | bindPlayer id player => exact h.bindPlayer id player
  | remove id => exact h.remove id
  | become id next => exact h.become id next

/-- The index agrees with the registered sessions after any calls. -/
theorem foldl_perform (h : r.Indexed) (calls : List RegistryCall) :
    (calls.foldl perform r).Indexed := by
  induction calls generalizing r with
  | nil => exact h
  | cons call calls ih => exact ih (h.perform call)

/-- A registered session that is not disconnected is found under its player. -/
theorem findByPlayer (h : r.Indexed) (hsession : r.get id = .ok session)
    (howner : session.player = some player) (halive : session.state ≠ .disconnected) :
    r.findByPlayer player = some id := by
  obtain ⟨hview, hregistered⟩ := get_eq_ok_iff.mp hsession
  exact findByPlayer_eq_some_iff.mpr
    ⟨h.indexed _ _ _ hsession howner, hregistered, session, hview, halive⟩

end Indexed

/-! ## A registered session stays or ends -/

/-- The session is registered, or it is disconnected. -/
def StaysOrEnds (r : SessionRegistry) (id : SessionId) : Prop :=
  ∃ session, r.session? id = some session ∧
    (r.isRegistered id = true ∨ session.state = .disconnected)

namespace StaysOrEnds

protected theorem add (h : r.StaysOrEnds id) (hr : r.Indexed) (new : Session)
    (registered : Bool) : (r.add new registered).2.StaysOrEnds id := by
  obtain ⟨session, hsession, hend⟩ := h
  have hne := hr.ne_next hsession
  refine ⟨session, ?_, ?_⟩
  · rw [session?_add, if_neg hne]
    exact hsession
  · unfold SessionRegistry.add isRegistered
    rw [Table.get?_insert, if_neg hne]
    exact hend

protected theorem update (h : r.StaysOrEnds id) {f : Session → Session}
    (hf : ∀ session, r.session? key = some session → session.state = .disconnected →
      (f session).state = .disconnected) : (r.update key f).StaysOrEnds id := by
  obtain ⟨session, hsession, hend⟩ := h
  rw [StaysOrEnds, session?_update, isRegistered_update, hsession]
  by_cases hkey : id = key
  · subst hkey
    refine ⟨f session, if_pos rfl, ?_⟩
    exact hend.imp_right (hf session hsession)
  · exact ⟨session, if_neg hkey, hend⟩

protected theorem retire (h : r.StaysOrEnds id) (key : SessionId) :
    (r.retire key).StaysOrEnds id := by
  obtain ⟨session, hsession, hend⟩ := h
  rw [StaysOrEnds, session?_retire, hsession]
  by_cases hkey : id = key
  · exact ⟨session.disconnect, if_pos hkey, .inr rfl⟩
  · rw [isRegistered_retire_of_ne hkey]
    exact ⟨session, if_neg hkey, hend⟩

protected theorem perform (h : r.StaysOrEnds id) (hr : r.Indexed) (call : RegistryCall) :
    (r.perform call).StaysOrEnds id := by
  cases call with
  | create => exact h.add hr {} true
  | foreign session => exact h.add hr session false
  | bindPlayer key player =>
      have hbound : (r.assign key player).StaysOrEnds id :=
        h.update (f := fun session => { session with player := some player }) fun _ _ hgone => hgone
      rcases r.bindPlayer_cases key player with ⟨hsame, -⟩ | ⟨previous, -, -, -, hsame⟩
      · rw [perform, hsame]
        exact hbound
      · rw [perform, hsame]
        exact hbound.retire previous
  | remove key =>
      rcases r.remove_eq key with hsame | ⟨owner, hsame⟩
      · rw [perform, hsame]
        exact h
      · rw [perform, hsame]
        refine StaysOrEnds.retire ?_ key
        rwa [StaysOrEnds, session?_forget, isRegistered_forget]
  | become key next =>
      rcases r.become_cases key next with hsame | ⟨old, new, hold, -, hend, hsame⟩
      · rw [perform, hsame]
        exact h
      · rw [perform, hsame]
        refine h.update fun session hsession hgone => hend ?_
        rw [hold] at hsession
        cases hsession
        exact hgone

theorem foldl_perform (h : r.StaysOrEnds id) (hr : r.Indexed) (calls : List RegistryCall) :
    (calls.foldl perform r).StaysOrEnds id := by
  induction calls generalizing r with
  | nil => exact h
  | cons call calls ih => exact ih (h.perform hr call) (hr.perform call)

end StaysOrEnds

/-- **One session for each player.**  After any calls, no two registered sessions have the same
player; the search finds a player's registered session unless it is disconnected, and
nothing that is unregistered or disconnected; and a session that was registered after some of
the calls is still registered, or disconnected. -/
theorem one_for_each_player (calls : List RegistryCall) :
    (∀ player id id' session session',
      (after calls).get id = .ok session → session.player = some player →
      (after calls).get id' = .ok session' → session'.player = some player → id' = id) ∧
    (∀ player id session,
      (after calls).get id = .ok session → session.player = some player →
      session.state ≠ .disconnected → (after calls).findByPlayer player = some id) ∧
    (∀ player id, (after calls).findByPlayer player = some id →
      ∃ session, (after calls).get id = .ok session ∧ session.state ≠ .disconnected) ∧
    ∀ earlier id, earlier <+: calls → (after earlier).isRegistered id = true →
      (after calls).isRegistered id = false →
      ∃ session, (after calls).session? id = some session ∧ session.state = .disconnected := by
  have hindexed : (after calls).Indexed := indexed_empty.foldl_perform calls
  refine ⟨?_, ?_, ?_, ?_⟩
  · intro player id id' session session' hsession howner hsession' howner'
    have hindex := hindexed.indexed _ _ _ hsession howner
    have hindex' := hindexed.indexed _ _ _ hsession' howner'
    rw [hindex] at hindex'
    exact (Option.some.inj hindex').symm
  · intro player id session hsession howner halive
    exact hindexed.findByPlayer hsession howner halive
  · intro player id hfound
    obtain ⟨-, hregistered, session, hsession, halive⟩ := findByPlayer_eq_some_iff.mp hfound
    exact ⟨session, get_eq_ok_iff.mpr ⟨hsession, hregistered⟩, halive⟩
  · -- A session that was registered in between stays or ends under the calls after that.
    rintro earlier id ⟨later, rfl⟩ hthen hnow
    obtain ⟨session, hsession⟩ := get_eq_ok_of_isRegistered hthen
    have hstart : (after earlier).StaysOrEnds id :=
      ⟨session, (get_eq_ok_iff.mp hsession).1, .inl hthen⟩
    obtain ⟨session', hsession', hend⟩ :=
      hstart.foldl_perform (indexed_empty.foldl_perform earlier) later
    rw [← after_append] at hsession' hend
    refine ⟨session', hsession', hend.resolve_left ?_⟩
    rw [hnow]
    exact Bool.false_ne_true

/-- Two players quarrel: the first has a session of hers displaced, the session that displaced
it is bound to the second, and then displaced because the index still has it for the first. -/
def quarrel : List RegistryCall :=
  [.create, .create, .bindPlayer ⟨0⟩ (.ofNat 1), .bindPlayer ⟨1⟩ (.ofNat 1),
    .bindPlayer ⟨1⟩ (.ofNat 2), .create, .bindPlayer ⟨2⟩ (.ofNat 1), .foreign {},
    .bindPlayer ⟨3⟩ (.ofNat 2), .remove ⟨0⟩, .become ⟨2⟩ .handshaking]

/-- After the quarrel the first player is found on her third session, and the second session,
registered while the second player had it, is disconnected. -/
theorem one_for_each_player_quarrel :
    ((after quarrel).get ⟨2⟩ = .ok { state := .handshaking, player := some (.ofNat 1) } ∧
      (after quarrel).findByPlayer (.ofNat 1) = some ⟨2⟩) ∧
    (quarrel.take 5 <+: quarrel ∧ (after (quarrel.take 5)).isRegistered ⟨1⟩ = true ∧
      (after quarrel).isRegistered ⟨1⟩ = false ∧
      ∃ session, (after quarrel).session? ⟨1⟩ = some session ∧ session.state = .disconnected) := by
  obtain ⟨-, hfound, -, hended⟩ := one_for_each_player quarrel
  have hthird : (after quarrel).get ⟨2⟩ =
      .ok { state := .handshaking, player := some (.ofNat 1) } := rfl
  have hearlier : quarrel.take 5 <+: quarrel := List.take_prefix 5 quarrel
  have hthen : (after (quarrel.take 5)).isRegistered ⟨1⟩ = true := by decide
  have hnow : (after quarrel).isRegistered ⟨1⟩ = false := by decide
  exact ⟨⟨hthird, hfound _ _ _ hthird rfl nofun⟩, hearlier, hthen, hnow,
    hended _ _ hearlier hthen hnow⟩

end SessionRegistry

end GameGateway
