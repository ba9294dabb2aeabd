import GameGateway.Session.Registry

/-!
# Well-kept registries

The index of a registry points from a player to a session, and may go on pointing there
when the session is gone.  In the other direction nothing is lost: a session that is not
disconnected is registered, knows its player, and is the one that the index has for that
player (`WellKept`).  So a player has at most one such session, and the registry finds it
(`WellKept.findByPlayer_eq_some_iff`).

There are three ways in which a registry changes: a session is opened for a player, a
session is changed, and a session is removed.  Each of them keeps the registry well, and
none of them gives a session another player or brings a disconnected one back (`Keeps`).
-/

namespace GameGateway.Session

theorem become_eq_ok {session session' : Session} {next : SessionState} {changed : Bool}
    (h : session.become next = .ok (changed, session')) :
    session' = { session with state := next } ∧
      (session.state = next ∨ session.state.canBecome next = true) := by
  unfold become at h
  cases hbecome : session.state.become next with
  | error step =>
      rw [hbecome] at h
      cases h
  | ok result =>
      rw [hbecome] at h
      cases h
      refine ⟨rfl, ?_⟩
      unfold SessionState.become at hbecome
      split at hbecome
      · rename_i hsame
        exact .inl hsame
      · split at hbecome
        · rename_i hcan
          exact .inr hcan
        · cases hbecome

/-- A disconnected session stays so. -/
theorem disconnected_of_become {session session' : Session} {next : SessionState} {changed : Bool}
    (h : session.become next = .ok (changed, session')) (hgone : session.state = .disconnected) :
    session'.state = .disconnected := by
  obtain ⟨rfl, hsame | hcan⟩ := become_eq_ok h
  · exact hsame.symm.trans hgone
  · rw [hgone] at hcan
    cases next with
    | new | handshaking | playing | transferring | disconnected => cases hcan

end GameGateway.Session

namespace GameGateway.SessionRegistry

variable {r : SessionRegistry} {id : SessionId} {player : Uuid} {session : Session}

/-! ## What the changes do to the view of sessions -/

theorem session?_add (r : SessionRegistry) (session : Session) (registered : Bool)
    (id : SessionId) : (r.add session registered).2.session? id =
      if id = ⟨r.nextNumber⟩ then some session else r.session? id := by
  unfold add session?
  rw [Table.get?_insert]
  split
  · rfl
  · rfl

/-- A change of an entry shows in what it does to the session. -/
theorem session?_of_update (r : SessionRegistry) (key id : SessionId)
    {change : SessionEntry → SessionEntry} {f : Session → Session}
    (h : ∀ entry, (change entry).session = f entry.session) :
    ((r.entries.update key change).get? id).map SessionEntry.session =
      if id = key then (r.session? id).map f else r.session? id := by
  rw [Table.get?_update]
  split
  · rw [session?, Option.map_map, Option.map_map]
    exact congrArg (Option.map · _) (funext h)
  · rfl

theorem session?_update (r : SessionRegistry) (key id : SessionId) (f : Session → Session) :
    (r.update key f).session? id =
      if id = key then (r.session? id).map f else r.session? id :=
  session?_of_update r key id fun _ => rfl

/-- There is nothing to change about a session that there is not. -/
theorem update_of_none {f : Session → Session} (h : r.session? id = none) : r.update id f = r := by
  have hentry : r.entries.get? id = none := Option.map_eq_none_iff.mp h
  rw [update, Table.update, hentry]

/-- Two changes that agree on a session make the same change of it. -/
theorem update_congr {f g : Session → Session}
    (h : ∀ session, r.session? id = some session → f session = g session) :
    r.update id f = r.update id g := by
  unfold update Table.update
  cases hentry : r.entries.get? id with
  | none => rfl
  | some entry =>
      dsimp only
      rw [h entry.session (congrArg (Option.map SessionEntry.session) hentry)]

theorem session?_retire (r : SessionRegistry) (key id : SessionId) :
    (r.retire key).session? id =
      if id = key then (r.session? id).map Session.disconnect else r.session? id :=
  session?_of_update r key id fun _ => rfl

@[simp] theorem isRegistered_update (r : SessionRegistry) (key id : SessionId)
    (f : Session → Session) : (r.update key f).isRegistered id = r.isRegistered id := by
  unfold update isRegistered
  rw [Table.get?_update]
  split
  · rw [Option.map_map]
    rfl
  · rfl

theorem isRegistered_retire_of_ne {key : SessionId} (h : id ≠ key) :
    (r.retire key).isRegistered id = r.isRegistered id := by
  unfold retire isRegistered
  rw [Table.get?_update, if_neg h]

theorem get_eq_ok_iff :
    r.get id = .ok session ↔ r.session? id = some session ∧ r.isRegistered id = true := by
  unfold get session? isRegistered
  cases r.entries.get? id with
  | none => simp
  | some entry =>
      obtain ⟨found, registered⟩ := entry
      cases registered with
      | false => simp
      | true => simp

theorem get_eq_ok_of_isRegistered (h : r.isRegistered id = true) :
    ∃ session, r.get id = .ok session := by
  unfold isRegistered at h
  cases hentry : r.entries.get? id with
  | none =>
      rw [hentry] at h
      cases h
  | some entry =>
      rw [hentry] at h
      refine ⟨entry.session, get_eq_ok_iff.mpr ⟨?_, ?_⟩⟩
      · rw [session?, hentry]
        rfl
      · rw [isRegistered, hentry]
        exact h

theorem findByPlayer_eq_some_iff :
    r.findByPlayer player = some id ↔ r.byPlayer.get? player = some id ∧
      r.isRegistered id = true ∧
      ∃ session, r.session? id = some session ∧ session.state ≠ .disconnected := by
  unfold findByPlayer
  cases hindex : r.byPlayer.get? player with
  | none => simp
  | some found =>
      rw [Option.bind_eq_bind, Option.bind_some]
      cases hget : r.get found with
      | error e =>
          have hgone : r.isRegistered found ≠ true := by
            intro h
            obtain ⟨session, hok⟩ := get_eq_ok_of_isRegistered h
            rw [hget] at hok
            cases hok
          constructor
          · intro h
            cases h
          · rintro ⟨hsame, hregistered, -⟩
            cases hsame
            exact absurd hregistered hgone
      | ok session =>
          obtain ⟨hsession, hregistered⟩ := get_eq_ok_iff.mp hget
          dsimp only
          constructor
          · intro h
            split at h
            · cases h
            · rename_i halive
              cases h
              exact ⟨rfl, hregistered, session, hsession,
                by simpa [SessionState.isTerminal] using halive⟩
          · rintro ⟨hsame, -, other, hother, halive⟩
            cases hsame
            rw [hsession] at hother
            cases hother
            rw [if_neg (by simpa [SessionState.isTerminal] using halive)]

/-- A change that disconnects nothing and revives nothing is not seen by the search. -/
theorem findByPlayer_update {key : SessionId} {f : Session → Session}
    (hf : ∀ session, (f session).state = .disconnected ↔ session.state = .disconnected) :
    (r.update key f).findByPlayer player = r.findByPlayer player := by
  have hindex : (r.update key f).byPlayer = r.byPlayer := rfl
  ext id
  rw [findByPlayer_eq_some_iff, findByPlayer_eq_some_iff, hindex, isRegistered_update,
    session?_update]
  split
  · cases r.session? id with
    | none => simp
    | some session => simp [hf session]
  · rfl

/-! ## Well-kept registries -/

/-- Sessions have numbers below the next one, the index points to sessions of its players, and
every session that is not disconnected can be found through it. -/
structure WellKept (r : SessionRegistry) : Prop where
  numbered : ∀ id session, r.session? id = some session → id.number < r.nextNumber
  indexed : ∀ player id, r.byPlayer.get? player = some id →
    ∃ session, r.session? id = some session ∧ session.player = some player
  reachable : ∀ id session, r.session? id = some session → session.state ≠ .disconnected →
    r.isRegistered id = true ∧ ∃ player, session.player = some player ∧
      r.byPlayer.get? player = some id

/-- Every session is still there; it has the player that it had, and is disconnected if it
was. -/
def Keeps (r r' : SessionRegistry) : Prop :=
  ∀ id session, r.session? id = some session → ∃ session', r'.session? id = some session' ∧
    (∀ player, session.player = some player → session'.player = some player) ∧
    (session.state = .disconnected → session'.state = .disconnected)

theorem Keeps.refl (r : SessionRegistry) : r.Keeps r :=
  fun _ session h => ⟨session, h, fun _ => id, id⟩

theorem Keeps.trans {r r' r'' : SessionRegistry} (h : r.Keeps r') (h' : r'.Keeps r'') :
    r.Keeps r'' := by
  intro id session hsession
  obtain ⟨session', hsession', hplayer, hstate⟩ := h id session hsession
  obtain ⟨session'', hsession'', hplayer', hstate'⟩ := h' id session' hsession'
  exact ⟨session'', hsession'', fun p hp => hplayer' p (hplayer p hp),
    fun hs => hstate' (hstate hs)⟩

/-- A change that does not give the session another player and does not bring it back. -/
def Harmless (f : Session → Session) (session : Session) : Prop :=
  (f session).player = session.player ∧
    (session.state = .disconnected → (f session).state = .disconnected)

theorem wellKept_empty : ({} : SessionRegistry).WellKept where
  numbered _ _ h := by cases h
  indexed _ _ h := by cases h
  reachable _ _ h := by cases h

namespace WellKept

/-- A player's session is found exactly if there is one that is not disconnected. -/
theorem findByPlayer_eq_some_iff (h : r.WellKept) :
    r.findByPlayer player = some id ↔ ∃ session, r.session? id = some session ∧
      session.player = some player ∧ session.state ≠ .disconnected := by
  rw [SessionRegistry.findByPlayer_eq_some_iff]
  constructor
  · rintro ⟨hindex, -, session, hsession, halive⟩
    obtain ⟨other, hother, hplayer⟩ := h.indexed _ _ hindex
    rw [hsession] at hother
    cases hother
    exact ⟨session, hsession, hplayer, halive⟩
  · rintro ⟨session, hsession, hplayer, halive⟩
    obtain ⟨hregistered, other, hother, hindex⟩ := h.reachable _ _ hsession halive
    rw [hplayer] at hother
    cases hother
    exact ⟨hindex, hregistered, session, hsession, halive⟩

/-! ## Changing a session -/

protected theorem update {f : Session → Session} (h : r.WellKept)
    (hf : ∀ session, r.session? id = some session → Harmless f session) :
    (r.update id f).WellKept ∧ r.Keeps (r.update id f) := by
  have hview : ∀ key session', (r.update id f).session? key = some session' →
      ∃ session, r.session? key = some session ∧ session'.player = session.player ∧
        (session'.state ≠ .disconnected → session.state ≠ .disconnected) := by
    intro key session' hsession'
    rw [session?_update] at hsession'
    split at hsession'
    · rename_i hkey
      subst hkey
      obtain ⟨session, hsession, rfl⟩ := Option.map_eq_some_iff.mp hsession'
      obtain ⟨hplayer, hstate⟩ := hf session hsession
      exact ⟨session, hsession, hplayer, mt hstate⟩
    · exact ⟨session', hsession', rfl, fun halive => halive⟩
  have hkeeps : r.Keeps (r.update id f) := by
    intro key session hsession
    rw [session?_update, hsession]
    split
    · rename_i hkey
      subst hkey
      obtain ⟨hplayer, hstate⟩ := hf session hsession
      exact ⟨f session, rfl, fun p hp => hplayer.trans hp, hstate⟩
    · exact ⟨session, rfl, fun _ hp => hp, fun hs => hs⟩
  refine ⟨⟨?_, ?_, ?_⟩, hkeeps⟩
  · intro key session' hsession'
    obtain ⟨session, hsession, -⟩ := hview key session' hsession'
    exact h.numbered _ _ hsession
  · intro p key hindex
    obtain ⟨session, hsession, hplayer⟩ := h.indexed _ _ hindex
    obtain ⟨session', hsession', hkept, -⟩ := hkeeps key session hsession
    exact ⟨session', hsession', hkept p hplayer⟩
  · intro key session' hsession' halive
    obtain ⟨session, hsession, hplayer, hstate⟩ := hview key session' hsession'
    obtain ⟨hregistered, p, hp, hindex⟩ := h.reachable _ _ hsession (hstate halive)
    exact ⟨(isRegistered_update ..).trans hregistered, p, hplayer.trans hp, hindex⟩

end WellKept

/-! ## Removing a session -/

/-- Forgetting an index entry touches no session. -/
theorem entries_forget (r : SessionRegistry) (id : SessionId) (player : Option Uuid) :
    (r.forget id player).entries = r.entries := by
  unfold forget
  split
  · rfl
  · split
    · rfl
    · rfl

/-- No index entry to another session is forgotten. -/
theorem byPlayer_forget {key : SessionId} {owner : Option Uuid} (hne : key ≠ id)
    (h : r.byPlayer.get? player = some key) :
    (r.forget id owner).byPlayer.get? player = some key := by
  unfold forget
  split
  · exact h
  · rename_i owner
    split
    · rename_i hpoints
      rw [Table.get?_erase, if_neg ?_]
      · exact h
      · rintro rfl
        rw [h] at hpoints
        cases hpoints
        exact hne rfl
    · exact h

theorem byPlayer_of_forget {key : SessionId} {owner : Option Uuid}
    (h : (r.forget id owner).byPlayer.get? player = some key) :
    r.byPlayer.get? player = some key := by
  unfold forget at h
  split at h
  · exact h
  · split at h
    · rw [Table.get?_erase] at h
      split at h
      · cases h
      · exact h
    · exact h

theorem remove_eq (r : SessionRegistry) (id : SessionId) :
    (r.remove id).2 = r ∨ ∃ owner, (r.remove id).2 = (r.forget id owner).retire id := by
  unfold remove
  split
  · rename_i session _
    exact .inr ⟨session.player, rfl⟩
  · exact .inl rfl

theorem session?_forget (r : SessionRegistry) (id key : SessionId) (owner : Option Uuid) :
    (r.forget id owner).session? key = r.session? key := by
  rw [session?, session?, entries_forget]

theorem isRegistered_forget (r : SessionRegistry) (id key : SessionId) (owner : Option Uuid) :
    (r.forget id owner).isRegistered key = r.isRegistered key := by
  rw [isRegistered, isRegistered, entries_forget]

theorem nextNumber_forget (r : SessionRegistry) (id : SessionId) (owner : Option Uuid) :
    (r.forget id owner).nextNumber = r.nextNumber := by
  unfold forget
  split
  · rfl
  · split
    · rfl
    · rfl

theorem Keeps.retire (r : SessionRegistry) (id : SessionId) : r.Keeps (r.retire id) := by
  intro key session hsession
  rw [session?_retire, hsession]
  split
  · exact ⟨session.disconnect, rfl, fun _ hp => hp, fun _ => rfl⟩
  · exact ⟨session, rfl, fun _ hp => hp, fun hs => hs⟩

/-- A session of a registry with one session retired was there before. -/
theorem session?_of_retire {key : SessionId} {session' : Session}
    (h : (r.retire id).session? key = some session') :
    ∃ session, r.session? key = some session ∧ session'.player = session.player ∧
      (session'.state ≠ .disconnected → key ≠ id ∧ session' = session) := by
  rw [session?_retire] at h
  split at h
  · obtain ⟨session, hsession, rfl⟩ := Option.map_eq_some_iff.mp h
    exact ⟨session, hsession, rfl, fun halive => absurd rfl halive⟩
  · rename_i hne
    exact ⟨session', h, rfl, fun _ => ⟨hne, rfl⟩⟩

protected theorem WellKept.remove (h : r.WellKept) (id : SessionId) :
    (r.remove id).2.WellKept ∧ r.Keeps (r.remove id).2 := by
  rcases r.remove_eq id with hsame | ⟨owner, hremoved⟩
  · rw [hsame]
    exact ⟨h, .refl r⟩
  rw [hremoved]
  have hkeeps : r.Keeps ((r.forget id owner).retire id) := by
    intro key session hsession
    rw [← session?_forget r id key owner] at hsession
    exact Keeps.retire _ id key session hsession
  refine ⟨⟨?_, ?_, ?_⟩, hkeeps⟩
  · intro key session' hsession'
    obtain ⟨session, hsession, -⟩ := session?_of_retire hsession'
    rw [session?_forget] at hsession
    exact Nat.lt_of_lt_of_eq (h.numbered _ _ hsession) (nextNumber_forget r id owner).symm
  · intro p key hindex
    obtain ⟨session, hsession, hplayer⟩ := h.indexed _ _ (byPlayer_of_forget hindex)
    obtain ⟨session', hsession', hkept, -⟩ := hkeeps key session hsession
    exact ⟨session', hsession', hkept p hplayer⟩
  · intro key session' hsession' halive
    obtain ⟨session, hsession, -, hsame⟩ := session?_of_retire hsession'
    obtain ⟨hne, rfl⟩ := hsame halive
    rw [session?_forget] at hsession
    obtain ⟨hregistered, p, hp, hindex⟩ := h.reachable _ _ hsession halive
    refine ⟨?_, p, hp, byPlayer_forget hne hindex⟩
    rw [isRegistered_retire_of_ne hne, isRegistered_forget]
    exact hregistered

/-! ## Opening a session -/

/-- The registry in which a session has been opened for a player. -/
def openFor (r : SessionRegistry) (session : Session) (player : Uuid) : SessionRegistry :=
  ((r.add session true).2.bindPlayer (r.add session true).1 player).2

/-- The same before the session that was the player's is retired. -/
def enter (r : SessionRegistry) (session : Session) (player : Uuid) : SessionRegistry :=
  { (r.add session true).2.update ⟨r.nextNumber⟩ (fun session =>
      { session with player := some player }) with
    byPlayer := r.byPlayer.insert player ⟨r.nextNumber⟩ }

theorem session?_enter (r : SessionRegistry) (session : Session) (player : Uuid)
    (id : SessionId) : (r.enter session player).session? id =
      if id = ⟨r.nextNumber⟩ then some { session with player := some player }
      else r.session? id := by
  have hview : (r.enter session player).session? id =
      ((r.add session true).2.update ⟨r.nextNumber⟩ (fun session =>
        { session with player := some player })).session? id := rfl
  rw [hview, session?_update, session?_add]
  split
  · rfl
  · rfl

theorem isRegistered_enter (r : SessionRegistry) (session : Session) (player : Uuid)
    (id : SessionId) : (r.enter session player).isRegistered id =
      if id = ⟨r.nextNumber⟩ then true else r.isRegistered id := by
  have hview : (r.enter session player).isRegistered id =
      ((r.add session true).2.update ⟨r.nextNumber⟩ (fun session =>
        { session with player := some player })).isRegistered id := rfl
  rw [hview, isRegistered_update, add, isRegistered, Table.get?_insert]
  split
  · rfl
  · rfl

/-- Opening a session retires the session that was the player's, if it is registered. -/
theorem WellKept.openFor_cases (h : r.WellKept) (session : Session) (player : Uuid) :
    (r.openFor session player = r.enter session player ∧ ∀ previous,
        r.byPlayer.get? player = some previous → r.isRegistered previous = false) ∨
      ∃ previous, r.byPlayer.get? player = some previous ∧
        r.openFor session player = (r.enter session player).retire previous := by
  have hadd : (r.add session true).2.byPlayer = r.byPlayer := rfl
  unfold openFor bindPlayer
  dsimp only
  rw [hadd]
  cases hindex : r.byPlayer.get? player with
  | none => exact .inl ⟨rfl, nofun⟩
  | some previous =>
      obtain ⟨old, hold, -⟩ := h.indexed _ _ hindex
      have hne : previous ≠ ⟨r.nextNumber⟩ := by
        rintro rfl
        exact Nat.lt_irrefl _ (h.numbered _ _ hold)
      have hregistered : (r.enter session player).isRegistered previous =
          r.isRegistered previous := by
        rw [isRegistered_enter, if_neg hne]
      dsimp only
      split
      · exact .inr ⟨previous, rfl, rfl⟩
      · rename_i hunregistered
        refine .inl ⟨rfl, fun other hother => ?_⟩
        cases hother
        rw [← hregistered]
        exact Bool.eq_false_iff.mpr fun htrue => hunregistered ⟨hne, htrue⟩

theorem WellKept.keeps_enter (h : r.WellKept) (session : Session) (player : Uuid) :
    r.Keeps (r.enter session player) := by
  intro key old hold
  have hne : key ≠ ⟨r.nextNumber⟩ := by
    rintro rfl
    exact Nat.lt_irrefl _ (h.numbered _ _ hold)
  refine ⟨old, ?_, fun _ hp => hp, fun hs => hs⟩
  rw [session?_enter, if_neg hne]
  exact hold

/-- A session that is not disconnected can be found after another one was opened, unless it
was the one that the index had for the player. -/
theorem WellKept.reachable_enter (h : r.WellKept) {key : SessionId} {session' : Session}
    (hsession' : (r.enter session player).session? key = some session')
    (halive : session'.state ≠ .disconnected)
    (hother : r.byPlayer.get? player = some key → r.isRegistered key = false) :
    (r.enter session player).isRegistered key = true ∧ ∃ owner, session'.player = some owner ∧
      (r.enter session player).byPlayer.get? owner = some key := by
  have hindex : (r.enter session player).byPlayer = r.byPlayer.insert player ⟨r.nextNumber⟩ := rfl
  rw [isRegistered_enter, hindex]
  rw [session?_enter] at hsession'
  split at hsession'
  · rename_i hkey
    cases hsession'
    refine ⟨if_pos hkey, player, rfl, ?_⟩
    rw [Table.get?_insert, if_pos rfl, hkey]
  · rename_i hkey
    obtain ⟨hregistered, owner, howner, hpoints⟩ := h.reachable _ _ hsession' halive
    have hne : owner ≠ player := by
      rintro rfl
      rw [hother hpoints] at hregistered
      cases hregistered
    refine ⟨(if_neg hkey).trans hregistered, owner, howner, ?_⟩
    rw [Table.get?_insert, if_neg hne]
    exact hpoints

/-- A session that is not disconnected after one was opened is the new one, or it was there
before. -/
theorem WellKept.session?_of_openFor (h : r.WellKept) {key : SessionId} {session' : Session}
    (hsession' : (r.openFor session player).session? key = some session')
    (halive : session'.state ≠ .disconnected) :
    session' = { session with player := some player } ∨ r.session? key = some session' := by
  have hentered : (r.enter session player).session? key = some session' := by
    rcases h.openFor_cases session player with ⟨hsame, -⟩ | ⟨previous, -, hsame⟩
    · rwa [hsame] at hsession'
    · rw [hsame] at hsession'
      obtain ⟨found, hfound, -, hkept⟩ := session?_of_retire hsession'
      rwa [(hkept halive).2]
  rw [session?_enter] at hentered
  split at hentered
  · cases hentered
    exact .inl rfl
  · exact .inr hentered

protected theorem WellKept.openFor (h : r.WellKept) (session : Session) (player : Uuid) :
    (r.openFor session player).WellKept ∧ r.Keeps (r.openFor session player) := by
  have hnext : (r.enter session player).nextNumber = r.nextNumber + 1 := rfl
  have hnumbered : ∀ key session', (r.enter session player).session? key = some session' →
      key.number < (r.enter session player).nextNumber := by
    intro key session' hsession'
    rw [session?_enter] at hsession'
    rw [hnext]
    split at hsession'
    · rename_i hkey
      rw [hkey]
      exact Nat.lt_succ_self _
    · exact Nat.lt_succ_of_lt (h.numbered _ _ hsession')
  have hindexed : ∀ owner key, (r.enter session player).byPlayer.get? owner = some key →
      ∃ session', (r.enter session player).session? key = some session' ∧
        session'.player = some owner := by
    intro owner key hpoints
    have hindex : (r.enter session player).byPlayer = r.byPlayer.insert player ⟨r.nextNumber⟩ := rfl
    rw [hindex, Table.get?_insert] at hpoints
    split at hpoints
    · rename_i howner
      cases hpoints
      refine ⟨{ session with player := some player }, ?_, congrArg some howner.symm⟩
      rw [session?_enter, if_pos rfl]
    · obtain ⟨old, hold, howner⟩ := h.indexed _ _ hpoints
      obtain ⟨session', hsession', hkept, -⟩ := h.keeps_enter session player key old hold
      exact ⟨session', hsession', hkept owner howner⟩
  rcases h.openFor_cases session player with ⟨hsame, hgone⟩ | ⟨previous, hprevious, hsame⟩
  · rw [hsame]
    exact ⟨⟨hnumbered, hindexed, fun key session' hsession' halive =>
      h.reachable_enter hsession' halive (hgone key)⟩, h.keeps_enter session player⟩
  rw [hsame]
  refine ⟨⟨?_, ?_, ?_⟩, (h.keeps_enter session player).trans (.retire _ previous)⟩
  · intro key session' hsession'
    obtain ⟨old, hold, -⟩ := session?_of_retire hsession'
    exact hnumbered key old hold
  · intro owner key hpoints
    obtain ⟨old, hold, howner⟩ := hindexed owner key hpoints
    obtain ⟨session', hsession', hkept, -⟩ := Keeps.retire _ previous key old hold
    exact ⟨session', hsession', hkept owner howner⟩
  · intro key session' hsession' halive
    -- The session that was displaced has lost its index entry, but it is disconnected as well.
    obtain ⟨old, hold, -, hkept⟩ := session?_of_retire hsession'
    obtain ⟨hne, rfl⟩ := hkept halive
    rw [isRegistered_retire_of_ne hne]
    refine h.reachable_enter hold halive fun hpoints => ?_
    rw [hprevious] at hpoints
    cases hpoints
    exact absurd rfl hne

end GameGateway.SessionRegistry
