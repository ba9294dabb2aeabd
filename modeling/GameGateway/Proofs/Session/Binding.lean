import GameGateway.Proofs.Session.Uniqueness

/-!
# Whom a binding touches

The index has one entry for each player, and a session has one player.  A session that is
bound to a second player keeps the entry of the first: nothing clears it but another binding
of the first player, for `remove` looks only at the player that the session has then.  So the
search may find a session under a player whose session it no longer is, and a binding of that
player takes the session out.

What the index says of registered sessions is the list of bindings, read from its end.  A
player's entry is the session that was bound to the player last, and a session's player is
the one to whom it was bound last (`Recorded`).  The two agree exactly as long as no
registered session is the last one of a player whom it has left (`ActsOnNamed`).
-/

namespace GameGateway

namespace RegistryCall

/-- The bindings made so far, newest first, with those of one more call. -/
def note (made : List (SessionId × Uuid)) : RegistryCall → List (SessionId × Uuid)
  | .bindPlayer id player => (id, player) :: made
  | _ => made

/-- Only a session that there is can be bound. -/
def BindsExisting (r : SessionRegistry) : RegistryCall → Prop
  | .bindPlayer id _ => (r.session? id).isSome = true
  | _ => True

instance (r : SessionRegistry) (call : RegistryCall) : Decidable (call.BindsExisting r) := by
  unfold BindsExisting
  split
  · infer_instance
  · infer_instance

end RegistryCall

namespace SessionRegistry

/-- Every call binds a session that there is at that time. -/
def BindExisting : SessionRegistry → List RegistryCall → Prop
  | _, [] => True
  | r, call :: calls => call.BindsExisting r ∧ BindExisting (r.perform call) calls

instance decidableBindExisting (r : SessionRegistry) (calls : List RegistryCall) :
    Decidable (r.BindExisting calls) :=
  match calls with
  | [] => .isTrue trivial
  | call :: calls =>
      have := decidableBindExisting (r.perform call) calls
      inferInstanceAs (Decidable (call.BindsExisting r ∧ BindExisting (r.perform call) calls))

/-- The bindings that some calls make, newest first. -/
def bindings (calls : List RegistryCall) : List (SessionId × Uuid) :=
  calls.foldl RegistryCall.note []

/-- The session that was bound to the player last. -/
def lastSession (made : List (SessionId × Uuid)) (player : Uuid) : Option SessionId :=
  (made.find? fun binding => binding.2 = player).map Prod.fst

/-- The player to whom the session was bound last. -/
def lastPlayer (made : List (SessionId × Uuid)) (id : SessionId) : Option Uuid :=
  (made.find? fun binding => binding.1 = id).map Prod.snd

variable {r : SessionRegistry} {id key : SessionId} {player : Uuid} {session session' : Session}
  {made : List (SessionId × Uuid)}

/-! ## The bindings read from their end -/

theorem lastSession_cons (id : SessionId) (bound player : Uuid) :
    lastSession ((id, bound) :: made) player =
      if player = bound then some id else lastSession made player := by
  unfold lastSession
  rw [List.find?_cons]
  by_cases hsame : bound = player
  · simp [hsame]
  · simp [hsame, Ne.symm hsame]

theorem lastPlayer_cons (bound id : SessionId) (player : Uuid) :
    lastPlayer ((bound, player) :: made) id =
      if id = bound then some player else lastPlayer made id := by
  unfold lastPlayer
  rw [List.find?_cons]
  by_cases hsame : bound = id
  · simp [hsame]
  · simp [hsame, Ne.symm hsame]

theorem mem_of_lastSession (h : lastSession made player = some id) : (id, player) ∈ made := by
  obtain ⟨⟨found, owner⟩, hfound, rfl⟩ := Option.map_eq_some_iff.mp h
  have howner : owner = player := by simpa using List.find?_some hfound
  rw [← howner]
  exact List.mem_of_find?_eq_some hfound

theorem mem_of_lastPlayer (h : lastPlayer made id = some player) : (id, player) ∈ made := by
  obtain ⟨⟨found, owner⟩, hfound, rfl⟩ := Option.map_eq_some_iff.mp h
  have hid : found = id := by simpa using List.find?_some hfound
  rw [← hid]
  exact List.mem_of_find?_eq_some hfound

theorem exists_lastPlayer (h : (id, player) ∈ made) : ∃ last, lastPlayer made id = some last := by
  unfold lastPlayer
  cases hfound : made.find? fun binding => binding.1 = id with
  | none =>
      have hnot := List.find?_eq_none.mp hfound (id, player) h
      simp at hnot
  | some binding => exact ⟨binding.2, rfl⟩

/-! ## Sessions that there are -/

theorem isSome_update (r : SessionRegistry) (key id : SessionId) (f : Session → Session) :
    ((r.update key f).session? id).isSome = (r.session? id).isSome := by
  rw [session?_update]
  split
  · exact Option.isSome_map
  · rfl

theorem isSome_retire (r : SessionRegistry) (key id : SessionId) :
    ((r.retire key).session? id).isSome = (r.session? id).isSome := by
  rw [session?_retire]
  split
  · exact Option.isSome_map
  · rfl

/-- Calls open sessions; none of them makes one go away. -/
theorem isSome_perform (h : (r.session? id).isSome = true) (call : RegistryCall) :
    ((r.perform call).session? id).isSome = true := by
  have hadd : ∀ new registered, ((r.add new registered).2.session? id).isSome = true := by
    intro new registered
    rw [session?_add]
    split
    · rfl
    · exact h
  cases call with
  | create => exact hadd {} true
  | foreign session => exact hadd session false
  | bindPlayer key player =>
      have hassign : ((r.assign key player).session? id).isSome = true := by
        rw [session?_assign, isSome_update]
        exact h
      rcases r.bindPlayer_cases key player with ⟨hbound, -⟩ | ⟨previous, -, -, -, hbound⟩
      · rw [perform, hbound]
        exact hassign
      · rw [perform, hbound, isSome_retire]
        exact hassign
  | remove key =>
      rcases r.remove_eq key with hsame | ⟨owner, hremoved⟩
      · rw [perform, hsame]
        exact h
      · rw [perform, hremoved, isSome_retire, session?_forget]
        exact h
  | become key next =>
      rcases r.become_cases key next with hsame | ⟨old, new, -, -, -, hmoved⟩
      · rw [perform, hsame]
        exact h
      · rw [perform, hmoved, isSome_update]
        exact h

/-! ## The index has the last bindings -/

/-- The registry after the bindings: registered sessions have the players to whom they were
bound last, and the index points to them from the players that were bound to them last. -/
structure Recorded (r : SessionRegistry) (made : List (SessionId × Uuid)) : Prop where
  existing : ∀ id player, (id, player) ∈ made → (r.session? id).isSome = true
  noted : ∀ player id, r.byPlayer.get? player = some id → (id, player) ∈ made
  players : ∀ id session, r.get id = .ok session → session.player = lastPlayer made id
  index : ∀ player id, r.isRegistered id = true →
    (r.byPlayer.get? player = some id ↔ lastSession made player = some id)

theorem recorded_empty : Recorded {} [] where
  existing _ _ h := by cases h
  noted _ _ h := by cases h
  players _ _ h := by cases h
  index _ _ h := by cases h

namespace Recorded

/-- A session that is added has not been bound before. -/
protected theorem add (h : r.Recorded made) (hr : r.Indexed) {registered : Bool}
    (hplayer : registered = true → session.player = none) :
    (r.add session registered).2.Recorded made := by
  have hunbound : ∀ player, (⟨r.nextNumber⟩, player) ∉ made := by
    intro player hmem
    obtain ⟨old, hold⟩ := Option.isSome_iff_exists.mp (h.existing _ _ hmem)
    exact hr.ne_next hold rfl
  refine ⟨?_, h.noted, ?_, ?_⟩
  · intro id player hmem
    rw [session?_add]
    split
    · rfl
    · exact h.existing id player hmem
  · intro id session' hsession'
    rw [get_add_eq_ok_iff] at hsession'
    split at hsession'
    · rename_i hid
      obtain ⟨hregistered, rfl⟩ := hsession'
      rw [hplayer hregistered, hid]
      refine (Option.eq_none_iff_forall_ne_some.mpr fun player hlast => ?_).symm
      exact hunbound player (mem_of_lastPlayer hlast)
    · exact h.players _ _ hsession'
  · intro player id hregistered
    have hindex : (r.add session registered).2.byPlayer = r.byPlayer := rfl
    rw [hindex]
    by_cases hid : id = ⟨r.nextNumber⟩
    · constructor
      · intro hpoints
        exact absurd (hid ▸ h.noted _ _ hpoints) (hunbound player)
      · intro hlast
        exact absurd (hid ▸ mem_of_lastSession hlast) (hunbound player)
    · obtain ⟨session', hsession'⟩ := get_eq_ok_of_isRegistered hregistered
      rw [get_add_eq_ok_iff, if_neg hid] at hsession'
      exact h.index player id (get_eq_ok_iff.mp hsession').2

protected theorem bindPlayer (h : r.Recorded made) (hid : (r.session? id).isSome = true)
    (player : Uuid) : (r.bindPlayer id player).2.Recorded ((id, player) :: made) := by
  refine ⟨?_, ?_, ?_, ?_⟩
  · intro key owner hmem
    have hkey : (r.session? key).isSome = true := by
      rcases List.mem_cons.mp hmem with hnew | hold
      · cases hnew
        exact hid
      · exact h.existing key owner hold
    exact isSome_perform hkey (.bindPlayer id player)
  · intro owner key hpoints
    rw [byPlayer_bindPlayer, Table.get?_insert] at hpoints
    split at hpoints
    · rename_i howner
      cases hpoints
      rw [howner]
      exact List.mem_cons_self
    · exact List.mem_cons_of_mem _ (h.noted owner key hpoints)
  · intro key session' hsession'
    obtain ⟨-, session, hsession, rfl⟩ := get_of_bindPlayer hsession'
    rw [lastPlayer_cons]
    split
    · rfl
    · exact h.players key session hsession
  · intro owner key hregistered
    obtain ⟨session', hsession'⟩ := get_eq_ok_of_isRegistered hregistered
    obtain ⟨-, session, hsession, -⟩ := get_of_bindPlayer hsession'
    rw [byPlayer_bindPlayer, Table.get?_insert, lastSession_cons]
    split
    · rfl
    · exact h.index owner key (get_eq_ok_iff.mp hsession).2

/-- The entries that a removal clears point to the session that is removed. -/
protected theorem remove (h : r.Recorded made) (id : SessionId) :
    (r.remove id).2.Recorded made := by
  have hpoints : ∀ owner key, (r.remove id).2.byPlayer.get? owner = some key →
      r.byPlayer.get? owner = some key := by
    intro owner key hkept
    rcases r.remove_eq id with hsame | ⟨gone, hremoved⟩
    · rwa [hsame] at hkept
    · rw [hremoved] at hkept
      exact byPlayer_of_forget hkept
  refine ⟨?_, ?_, ?_, ?_⟩
  · intro key owner hmem
    exact isSome_perform (h.existing key owner hmem) (.remove id)
  · intro owner key hkept
    exact h.noted owner key (hpoints owner key hkept)
  · intro key session hsession
    exact h.players key session (get_remove_eq_ok_iff.mp hsession).2
  · intro owner key hregistered
    obtain ⟨session, hsession⟩ := get_eq_ok_of_isRegistered hregistered
    obtain ⟨hne, hbefore⟩ := get_remove_eq_ok_iff.mp hsession
    rw [← h.index owner key (get_eq_ok_iff.mp hbefore).2]
    refine ⟨hpoints owner key, fun hindex => ?_⟩
    rcases r.remove_eq id with hsame | ⟨gone, hremoved⟩
    · rw [hsame]
      exact hindex
    · rw [hremoved]
      exact byPlayer_forget hne hindex

protected theorem become (h : r.Recorded made) (id : SessionId) (next : SessionState) :
    (r.become id next).2.Recorded made := by
  rcases r.become_cases id next with hsame | ⟨old, new, hold, hplayer, -, hmoved⟩
  · rw [hsame]
    exact h
  rw [hmoved]
  refine ⟨?_, h.noted, ?_, ?_⟩
  · intro key owner hmem
    rw [isSome_update]
    exact h.existing key owner hmem
  · intro key session' hsession'
    obtain ⟨session, hsession, rfl⟩ := get_update_eq_ok_iff.mp hsession'
    rw [← h.players key session hsession]
    split
    · rename_i hkey
      rw [hkey, get_eq_ok_iff, hold] at hsession
      cases hsession.1
      exact hplayer
    · rfl
  · intro owner key hregistered
    rw [isRegistered_update] at hregistered
    exact h.index owner key hregistered

protected theorem perform (h : r.Recorded made) (hr : r.Indexed) {call : RegistryCall}
    (hcall : call.BindsExisting r) : (r.perform call).Recorded (call.note made) := by
  cases call with
  | create => exact h.add hr fun _ => rfl
  | foreign session => exact h.add hr nofun
  | bindPlayer id player => exact h.bindPlayer hcall player
  | remove id => exact h.remove id
  | become id next => exact h.become id next

/-- The index has the last bindings after any calls. -/
theorem foldl_perform (h : r.Recorded made) (hr : r.Indexed) {calls : List RegistryCall}
    (hcalls : r.BindExisting calls) :
    (calls.foldl perform r).Recorded (calls.foldl RegistryCall.note made) := by
  induction calls generalizing r made with
  | nil => exact h
  | cons call calls ih => exact ih (h.perform hr hcalls.1) (hr.perform call) hcalls.2

end Recorded

/-! ## What a binding displaces -/

/-- The session is the same in both registries, and registered in both or in neither. -/
def Untouched (r r' : SessionRegistry) (id : SessionId) : Prop :=
  r'.session? id = r.session? id ∧ r'.isRegistered id = r.isRegistered id

/-- Binding acts only on the named player: the session that is found for a player has that
player, and a binding does not touch other sessions unless they have the player. -/
structure ActsOnNamed (r : SessionRegistry) : Prop where
  found : ∀ player id, r.findByPlayer player = some id →
    ∃ session, r.get id = .ok session ∧ session.player = some player
  spared : ∀ id player key session, (r.session? id).isSome = true → key ≠ id →
    r.session? key = some session → session.player ≠ some player →
    r.Untouched (r.bindPlayer id player).2 key

theorem untouched_assign (r : SessionRegistry) (player : Uuid) (hne : key ≠ id) :
    r.Untouched (r.assign id player) key := by
  refine ⟨?_, isRegistered_assign r id key player⟩
  rw [session?_assign, session?_update, if_neg hne]

theorem untouched_bindPlayer (hne : key ≠ id) (hkept : (r.bindPlayer id player).1 ≠ some key) :
    r.Untouched (r.bindPlayer id player).2 key := by
  obtain ⟨hsession, hregistered⟩ := untouched_assign r player hne
  rcases r.bindPlayer_cases id player with ⟨hbound, -⟩ | ⟨previous, -, -, -, hbound⟩
  · rw [hbound]
    exact ⟨hsession, hregistered⟩
  · rw [hbound] at hkept ⊢
    have hother : key ≠ previous := fun hsame => hkept (congrArg some hsame.symm)
    refine ⟨?_, (isRegistered_retire_of_ne hother).trans hregistered⟩
    rw [session?_retire, if_neg hother]
    exact hsession

/-- A session that is displaced is registered no more and disconnected. -/
theorem bindPlayer_displaced {previous : SessionId}
    (h : (r.bindPlayer id player).1 = some previous) :
    (r.bindPlayer id player).2.isRegistered previous = false ∧
      (r.bindPlayer id player).2.session? previous =
        (r.session? previous).map Session.disconnect := by
  rcases r.bindPlayer_cases id player with ⟨hbound, -⟩ | ⟨other, -, hne, -, hbound⟩
  · rw [hbound] at h
    cases h
  · rw [hbound] at h ⊢
    cases h
    refine ⟨isRegistered_retire _ previous, ?_⟩
    rw [session?_retire, if_pos rfl, (untouched_assign r player hne).1]

theorem bindPlayer_fst_eq_some_iff {previous : SessionId} :
    (r.bindPlayer id player).1 = some previous ↔ r.byPlayer.get? player = some previous ∧
      previous ≠ id ∧ r.isRegistered previous = true := by
  rcases r.bindPlayer_cases id player with
    ⟨hbound, hgone⟩ | ⟨other, hindex, hne, hregistered, hbound⟩
  · rw [hbound]
    constructor
    · intro h
      cases h
    · rintro ⟨hindex, hne, hregistered⟩
      rcases hgone previous hindex with hsame | hunregistered
      · exact absurd hsame hne
      · rw [hregistered] at hunregistered
        cases hunregistered
  · rw [hbound]
    constructor
    · intro h
      cases h
      exact ⟨hindex, hne, hregistered⟩
    · rintro ⟨hother, -, -⟩
      rw [← hother]
      exact hindex.symm

/-- What the registry does for players and sessions is told by the bindings: on which session a
player is found, which player a session has, which session a binding displaces, and that a
displaced session is disconnected and no further one is touched. -/
structure GoesBy (r : SessionRegistry) (made : List (SessionId × Uuid)) : Prop where
  found : ∀ player id, r.findByPlayer player = some id ↔ lastSession made player = some id ∧
    ∃ session, r.get id = .ok session ∧ session.state ≠ .disconnected
  players : ∀ id session, r.get id = .ok session → session.player = lastPlayer made id
  displaced : ∀ id player previous, (r.bindPlayer id player).1 = some previous ↔
    lastSession made player = some previous ∧ previous ≠ id ∧ r.isRegistered previous = true
  gone : ∀ id player previous, (r.bindPlayer id player).1 = some previous →
    (r.bindPlayer id player).2.isRegistered previous = false ∧
      (r.bindPlayer id player).2.session? previous =
        (r.session? previous).map Session.disconnect
  spared : ∀ id player key, key ≠ id → (r.bindPlayer id player).1 ≠ some key →
    r.Untouched (r.bindPlayer id player).2 key

namespace Recorded

theorem goesBy (h : r.Recorded made) : r.GoesBy made where
  found player id := by
    rw [findByPlayer_eq_some_iff]
    constructor
    · rintro ⟨hindex, hregistered, session, hsession, halive⟩
      exact ⟨(h.index player id hregistered).mp hindex, session,
        get_eq_ok_iff.mpr ⟨hsession, hregistered⟩, halive⟩
    · rintro ⟨hlast, session, hget, halive⟩
      obtain ⟨hsession, hregistered⟩ := get_eq_ok_iff.mp hget
      exact ⟨(h.index player id hregistered).mpr hlast, hregistered, session, hsession, halive⟩
  players := h.players
  displaced id player previous := by
    rw [bindPlayer_fst_eq_some_iff]
    constructor
    · rintro ⟨hindex, hne, hregistered⟩
      exact ⟨(h.index player previous hregistered).mp hindex, hne, hregistered⟩
    · rintro ⟨hlast, hne, hregistered⟩
      exact ⟨(h.index player previous hregistered).mpr hlast, hne, hregistered⟩
  gone _ _ _ := bindPlayer_displaced
  spared _ _ _ := untouched_bindPlayer

end Recorded

/-- What goes wrong is that a registered session is the last one of a player who is not its
own: it is found for that player, or it is displaced by the player's next session. -/
theorem GoesBy.actsOnNamed_iff (h : r.GoesBy made) :
    r.ActsOnNamed ↔ ∀ player id session, lastSession made player = some id →
      r.get id = .ok session →
      (session.state ≠ .disconnected ∨ ∃ other, other ≠ id ∧ (r.session? other).isSome = true) →
      lastPlayer made id = some player := by
  constructor
  · intro hacts player id session hlast hget hexposed
    have hplayer := h.players id session hget
    obtain ⟨hsession, hregistered⟩ := get_eq_ok_iff.mp hget
    rcases hexposed with halive | ⟨other, hne, hother⟩
    · obtain ⟨found, hfound, howner⟩ :=
        hacts.found player id ((h.found player id).mpr ⟨hlast, session, hget, halive⟩)
      rw [hget] at hfound
      cases hfound
      exact hplayer.symm.trans howner
    · refine Decidable.byContradiction fun hleft => ?_
      have hdisplaced := (h.displaced other player id).mpr ⟨hlast, hne.symm, hregistered⟩
      have hspared := hacts.spared other player id session hother hne.symm hsession
        (by rwa [hplayer])
      rw [Untouched, (h.gone _ _ _ hdisplaced).1, hregistered] at hspared
      cases hspared.2
  · intro hagree
    refine ⟨?_, ?_⟩
    · intro player id hfound
      obtain ⟨hlast, session, hget, halive⟩ := (h.found player id).mp hfound
      exact ⟨session, hget,
        (h.players id session hget).trans (hagree player id session hlast hget (.inl halive))⟩
    · intro id player key session hid hne hsession hplayer
      refine h.spared id player key hne fun hdisplaced => hplayer ?_
      obtain ⟨hlast, -, hregistered⟩ := (h.displaced id player key).mp hdisplaced
      have hget := get_eq_ok_iff.mpr ⟨hsession, hregistered⟩
      exact (h.players key session hget).trans
        (hagree player key session hlast hget (.inr ⟨id, hne.symm, hid⟩))

/-- **Whom a binding touches.**  After any calls that bind sessions that there are, a player is
found on the session that was bound to the player last, if it is registered and not
disconnected; a registered session has the player to whom it was bound last; and a binding
displaces the session that was bound to the player last, if it is registered and another one,
and touches no further session.  So binding acts only on the named player exactly if no
registered session that is the last one of a player has been bound to somebody else since (a
disconnected session that is the only one does no harm); in particular if no session is ever
bound to two players. -/
theorem binding_exact (calls : List RegistryCall) (hcalls : BindExisting {} calls) :
    (after calls).GoesBy (bindings calls) ∧
    ((after calls).ActsOnNamed ↔ ∀ player id session,
      lastSession (bindings calls) player = some id → (after calls).get id = .ok session →
      (session.state ≠ .disconnected ∨
        ∃ other, other ≠ id ∧ ((after calls).session? other).isSome = true) →
      lastPlayer (bindings calls) id = some player) ∧
    ((∀ id player player', (id, player) ∈ bindings calls → (id, player') ∈ bindings calls →
      player' = player) → (after calls).ActsOnNamed) := by
  have hrecorded : (after calls).Recorded (bindings calls) :=
    recorded_empty.foldl_perform indexed_empty hcalls
  refine ⟨hrecorded.goesBy, hrecorded.goesBy.actsOnNamed_iff, fun hsingle => ?_⟩
  refine hrecorded.goesBy.actsOnNamed_iff.mpr fun player id session hlast _ _ => ?_
  have hmem := mem_of_lastSession hlast
  obtain ⟨last, hlastPlayer⟩ := exists_lastPlayer hmem
  rw [hlastPlayer, hsingle id player last hmem (mem_of_lastPlayer hlastPlayer)]

/-- Three calls into the quarrel no session has been bound to two players, and the next binding
displaces the first session.  After all of it the first player is found on her third one. -/
theorem binding_exact_quarrel :
    (BindExisting {} (quarrel.take 3) ∧ (after (quarrel.take 3)).ActsOnNamed ∧
      ((after (quarrel.take 3)).bindPlayer ⟨1⟩ (.ofNat 1)).1 = some ⟨0⟩) ∧
    BindExisting {} quarrel ∧ (after quarrel).findByPlayer (.ofNat 1) = some ⟨2⟩ := by
  have hearly : BindExisting {} (quarrel.take 3) := by decide
  have hlate : BindExisting {} quarrel := by decide
  obtain ⟨hgoes, -, hacts⟩ := binding_exact (quarrel.take 3) hearly
  obtain ⟨hgoes', -⟩ := binding_exact quarrel hlate
  refine ⟨⟨hearly, hacts ?_, (hgoes.displaced ⟨1⟩ (.ofNat 1) ⟨0⟩).mpr (by decide)⟩, hlate, ?_⟩
  · intro id player player' hmem hmem'
    have hbindings : bindings (quarrel.take 3) = [(⟨0⟩, .ofNat 1)] := rfl
    rw [hbindings, List.mem_singleton] at hmem hmem'
    cases hmem
    cases hmem'
    rfl
  · exact (hgoes'.found (.ofNat 1) ⟨2⟩).mpr ⟨by decide, _, rfl, nofun⟩

/-- Once the second session has been bound to the second player, it is still found for the
first. -/
theorem binding_touches_earlier_player :
    ¬ ∀ calls, BindExisting {} calls → (after calls).ActsOnNamed := by
  intro hclaim
  have hacts := hclaim (quarrel.take 5) (by decide)
  have hfound : (after (quarrel.take 5)).findByPlayer (.ofNat 1) = some ⟨1⟩ := by decide
  obtain ⟨session, hsession, hplayer⟩ := hacts.found _ _ hfound
  have hget : (after (quarrel.take 5)).get ⟨1⟩ = .ok { player := some (.ofNat 2) } := rfl
  rw [hget] at hsession
  cases hsession
  exact absurd hplayer (by decide)

end SessionRegistry

end GameGateway
