import GameGateway.Event.Kind
import GameGateway.Proofs.Session.Uniqueness

/-!
# What is told of the sessions

A chronicle is a registry with the events that were posted, each with the sessions as they
were in that moment.  It tells the truth (`Chronicle.Truthful`) if in every such moment, and
now, the sessions whose end was told are those that were opened and are registered no more,
and if of each of them the end was told once.

There are three changes that a truthful chronicle survives: an event that is not an end, a
session that is opened, and a session that is taken out together with the event that tells
its end.  Binding a new session to a player is the second change, or the second and the
third.  That every session has begun once as well (`Chronicle.Complete`) holds when nothing
is under way: a session is opened before its beginning is told.
-/

namespace GameGateway

/-! ## Who is registered after a change -/

namespace SessionRegistry

variable {r : SessionRegistry}

/-- The same sessions have been opened, and the same ones are registered. -/
structure SameMembers (r r' : SessionRegistry) : Prop where
  nextNumber : r'.nextNumber = r.nextNumber
  isRegistered : ∀ id, r'.isRegistered id = r.isRegistered id

theorem SameMembers.update (r : SessionRegistry) (id : SessionId) (f : Session → Session) :
    r.SameMembers (r.update id f) where
  nextNumber := rfl
  isRegistered key := r.isRegistered_update id key f

/-- One more session has been opened. -/
structure Opens (r r' : SessionRegistry) : Prop where
  nextNumber : r'.nextNumber = r.nextNumber + 1
  isRegistered : ∀ id, r'.isRegistered id = if id = ⟨r.nextNumber⟩ then true else r.isRegistered id

/-- One registered session has been taken out. -/
structure Drops (id : SessionId) (r r' : SessionRegistry) : Prop where
  registered : r.isRegistered id = true
  nextNumber : r'.nextNumber = r.nextNumber
  isRegistered : ∀ key, r'.isRegistered key = if key = id then false else r.isRegistered key

theorem Opens.add_assign (r : SessionRegistry) (session : Session) (player : Uuid) :
    r.Opens ((r.add session true).2.assign ⟨r.nextNumber⟩ player) where
  nextNumber := rfl
  isRegistered id := by
    rw [isRegistered_assign, add, SessionRegistry.isRegistered, Table.get?_insert]
    split
    · rfl
    · rfl

theorem Drops.retire {id : SessionId} (h : r.isRegistered id = true) :
    r.Drops id (r.retire id) where
  registered := h
  nextNumber := rfl
  isRegistered key := by
    split
    · rename_i hkey
      rw [hkey, isRegistered_retire]
    · rename_i hne
      exact isRegistered_retire_of_ne hne

/-- A session that is registered is taken out when it is removed, and nothing happens if there
is none. -/
theorem remove_cases (r : SessionRegistry) (id : SessionId) :
    (r.isRegistered id = false ∧ r.remove id = (false, r)) ∨
      ((r.remove id).1 = true ∧ r.Drops id (r.remove id).2) := by
  cases hget : r.get id with
  | error e =>
      left
      constructor
      · refine Bool.eq_false_iff.mpr fun hregistered => ?_
        obtain ⟨session, hsession⟩ := get_eq_ok_of_isRegistered hregistered
        rw [hget] at hsession
        cases hsession
      · rw [remove, hget]
  | ok session =>
      right
      have hregistered := (get_eq_ok_iff.mp hget).2
      have hforgot := Drops.retire ((isRegistered_forget r id id session.player).trans hregistered)
      rw [remove, hget]
      refine ⟨rfl, hregistered,
        hforgot.nextNumber.trans (nextNumber_forget r id session.player), ?_⟩
      intro key
      rw [← isRegistered_forget r id key session.player]
      exact hforgot.isRegistered key

/-- A session that is opened and bound is new, and the session that it replaces is taken out. -/
theorem openFor_cases (r : SessionRegistry) (session : Session) (player : Uuid) :
    ∃ entered, r.Opens entered ∧ entered.session? ⟨r.nextNumber⟩ =
        some { session with player := some player } ∧
      (((r.add session true).2.bindPlayer ⟨r.nextNumber⟩ player = (none, entered)) ∨
        ∃ replaced, replaced ≠ ⟨r.nextNumber⟩ ∧ entered.isRegistered replaced = true ∧
          (r.add session true).2.bindPlayer ⟨r.nextNumber⟩ player =
            (some replaced, entered.retire replaced)) := by
  refine ⟨_, .add_assign r session player, ?_, ?_⟩
  · rw [session?_assign, session?_update, session?_add, if_pos rfl, if_pos rfl]
    rfl
  · rcases (r.add session true).2.bindPlayer_cases ⟨r.nextNumber⟩ player with
      ⟨hbound, -⟩ | ⟨replaced, -, hne, hregistered, hbound⟩
    · exact .inl hbound
    · exact .inr ⟨replaced, hne, (isRegistered_assign _ _ _ _).trans hregistered, hbound⟩

end SessionRegistry

/-! ## Chronicles -/

/-- An event as it is posted, with the sessions of that moment. -/
structure Posting where
  kind : EventKind
  event : Event kind
  sessions : SessionRegistry

namespace Posting

/-- The session whose beginning is told. -/
def begun? : Posting → Option SessionId
  | ⟨.playerConnected, event, _⟩ => some event.session
  | _ => none

/-- The session whose end is told. -/
def ended? : Posting → Option SessionId
  | ⟨.playerDisconnected, event, _⟩ => some event.session
  | _ => none

theorem begun?_eq_none {kind : EventKind} (hkind : kind ≠ .playerConnected) (event : Event kind)
    (r : SessionRegistry) : begun? ⟨kind, event, r⟩ = none := by
  cases kind with
  | playerConnected => exact absurd rfl hkind
  | playerDisconnected | playerAuthenticated | routePreSelect | routePostSelect | tokenValidated
    | backendStatusChanged | transferCompleted => rfl

theorem ended?_eq_none {kind : EventKind} (hkind : kind ≠ .playerDisconnected) (event : Event kind)
    (r : SessionRegistry) : ended? ⟨kind, event, r⟩ = none := by
  cases kind with
  | playerDisconnected => exact absurd rfl hkind
  | playerConnected | playerAuthenticated | routePreSelect | routePostSelect | tokenValidated
    | backendStatusChanged | transferCompleted => rfl

end Posting

/-- A registry with the events that were posted. -/
structure Chronicle where
  sessions : SessionRegistry := {}
  log : List Posting := []

namespace Chronicle

/-- The chronicle after an event was posted. -/
def note (c : Chronicle) (kind : EventKind) (event : Event kind) : Chronicle :=
  { c with log := c.log ++ [⟨kind, event, c.sessions⟩] }

/-- How often the beginning of a session is told. -/
def beginnings (log : List Posting) (id : SessionId) : Nat :=
  (log.filterMap Posting.begun?).count id

/-- How often the end of a session is told. -/
def endings (log : List Posting) (id : SessionId) : Nat := (log.filterMap Posting.ended?).count id

theorem beginnings_snoc (log : List Posting) (posting : Posting) (id : SessionId) :
    beginnings (log ++ [posting]) id =
      beginnings log id + if posting.begun? = some id then 1 else 0 := by
  unfold beginnings
  rw [List.filterMap_append, List.count_append]
  cases hbegun : posting.begun? with
  | none => simp [hbegun]
  | some other => simp [hbegun, List.count_singleton]

theorem endings_snoc (log : List Posting) (posting : Posting) (id : SessionId) :
    endings (log ++ [posting]) id = endings log id + if posting.ended? = some id then 1 else 0 := by
  unfold endings
  rw [List.filterMap_append, List.count_append]
  cases hended : posting.ended? with
  | none => simp [hended]
  | some other => simp [hended, List.count_singleton]

/-- The end of each session that is gone was told once, and no other end. -/
def TellsEndings (log : List Posting) (r : SessionRegistry) : Prop :=
  ∀ id, endings log id = if id.number < r.nextNumber ∧ r.isRegistered id = false then 1 else 0

/-- The beginning of each of the first `count` sessions was told once, and no other. -/
def TellsBeginnings (log : List Posting) (count : Nat) : Prop :=
  ∀ id, beginnings log id = if id.number < count then 1 else 0

/-- Ends are told in the moment in which they happen. -/
structure Truthful (c : Chronicle) : Prop where
  numbered : ∀ id, c.sessions.isRegistered id = true → id.number < c.sessions.nextNumber
  endings : TellsEndings c.log c.sessions
  prompt : ∀ earlier posting, earlier ++ [posting] <+: c.log →
    TellsEndings (earlier ++ [posting]) posting.sessions

/-- Ends are told in the moment in which they happen, and all beginnings have been told. -/
structure Complete (c : Chronicle) : Prop where
  truthful : c.Truthful
  beginnings : TellsBeginnings c.log c.sessions.nextNumber

variable {c : Chronicle} {r : SessionRegistry}

theorem complete_empty : Complete {} where
  truthful :=
    { numbered := fun _ h => by cases h
      endings := fun _ => rfl
      prompt := fun earlier posting h => by simp at h }
  beginnings _ := rfl

/-- A posting is prompt if the ends are told exactly once it is there. -/
theorem Truthful.note_of_tells {kind : EventKind} {event : Event kind}
    (hnumbered : ∀ id, c.sessions.isRegistered id = true → id.number < c.sessions.nextNumber)
    (hprompt : ∀ earlier posting, earlier ++ [posting] <+: c.log →
      TellsEndings (earlier ++ [posting]) posting.sessions)
    (htells : TellsEndings (c.note kind event).log c.sessions) : (c.note kind event).Truthful where
  numbered := hnumbered
  endings := htells
  prompt earlier posting h := by
    rcases List.prefix_concat_iff.mp h with hall | hearlier
    · obtain ⟨-, hlast⟩ := List.append_inj' hall rfl
      cases hlast
      rw [hall]
      exact htells
    · exact hprompt earlier posting hearlier

theorem Truthful.note (h : c.Truthful) {kind : EventKind} (hkind : kind ≠ .playerDisconnected)
    (event : Event kind) : (c.note kind event).Truthful := by
  refine .note_of_tells h.numbered h.prompt fun id => ?_
  rw [Chronicle.note, endings_snoc, Posting.ended?_eq_none hkind, if_neg nofun, h.endings id,
    Nat.add_zero]

/-- No session is registered that has not been opened. -/
theorem Truthful.isRegistered_of_le (h : c.Truthful) {id : SessionId}
    (hid : c.sessions.nextNumber ≤ id.number) : c.sessions.isRegistered id = false :=
  Bool.eq_false_iff.mpr fun hregistered => Nat.not_lt.mpr hid (h.numbered id hregistered)

theorem Truthful.same (h : c.Truthful) (hr : c.sessions.SameMembers r) :
    Truthful { c with sessions := r } where
  numbered id hid := by
    rw [hr.isRegistered] at hid
    rw [hr.nextNumber]
    exact h.numbered id hid
  endings id := by
    rw [hr.nextNumber, hr.isRegistered]
    exact h.endings id
  prompt := h.prompt

theorem Truthful.opens (h : c.Truthful) (hr : c.sessions.Opens r) :
    Truthful { c with sessions := r } where
  numbered id hid := by
    rw [hr.isRegistered] at hid
    rw [hr.nextNumber]
    split at hid
    · rename_i hnew
      rw [hnew]
      exact Nat.lt_succ_self _
    · exact Nat.lt_succ_of_lt (h.numbered id hid)
  endings id := by
    rw [hr.nextNumber, hr.isRegistered, h.endings id]
    by_cases hnew : id = ⟨c.sessions.nextNumber⟩
    · simp [hnew]
    · have hnumber : id.number ≠ c.sessions.nextNumber := fun hsame =>
        hnew (congrArg SessionId.mk hsame)
      have hbelow : id.number < c.sessions.nextNumber + 1 ↔ id.number < c.sessions.nextNumber := by
        omega
      simp only [if_neg hnew, hbelow]
  prompt := h.prompt

/-- A session is taken out, and its end is told before anything else is. -/
theorem Truthful.drops (h : c.Truthful) {id : SessionId} (hr : c.sessions.Drops id r)
    (reason : Option String) :
    (Chronicle.note { c with sessions := r } .playerDisconnected ⟨id, reason⟩).Truthful := by
  refine .note_of_tells ?_ h.prompt fun key => ?_
  · intro key hkey
    rw [hr.isRegistered] at hkey
    rw [hr.nextNumber]
    split at hkey
    · cases hkey
    · exact h.numbered key hkey
  · have hended : Posting.ended? ⟨.playerDisconnected, ⟨id, reason⟩, r⟩ = some id := rfl
    rw [Chronicle.note, endings_snoc, hended, hr.nextNumber, hr.isRegistered, h.endings key]
    by_cases hkey : key = id
    · subst hkey
      simp [hr.registered, h.numbered _ hr.registered]
    · simp [hkey, Ne.symm hkey]

/-! ## Beginnings -/

theorem TellsBeginnings.snoc {log : List Posting} {count : Nat} (h : TellsBeginnings log count)
    {posting : Posting} (hbegun : posting.begun? = none) :
    TellsBeginnings (log ++ [posting]) count := by
  intro id
  rw [beginnings_snoc, hbegun, if_neg nofun, h id, Nat.add_zero]

/-- The beginning of the session after those that have begun is told. -/
theorem TellsBeginnings.snoc_next {log : List Posting} {count : Nat} (h : TellsBeginnings log count)
    {posting : Posting} (hbegun : posting.begun? = some ⟨count⟩) :
    TellsBeginnings (log ++ [posting]) (count + 1) := by
  intro id
  rw [beginnings_snoc, hbegun, h id]
  rcases Nat.lt_trichotomy id.number count with hbelow | hsame | habove
  · have hother : some (⟨count⟩ : SessionId) ≠ some id := fun hid => by
      cases hid
      exact Nat.lt_irrefl _ hbelow
    rw [if_pos hbelow, if_neg hother, if_pos (Nat.lt_succ_of_lt hbelow)]
  · subst hsame
    rw [if_neg (Nat.lt_irrefl _), if_pos rfl, if_pos (Nat.lt_succ_self _)]
  · have hother : some (⟨count⟩ : SessionId) ≠ some id := fun hid => by
      cases hid
      exact Nat.lt_irrefl _ habove
    rw [if_neg (Nat.lt_asymm habove), if_neg hother, if_neg (by omega)]

/-! ## What the calls of a proxy do to a chronicle -/

/-- Nothing happens but events that are about no session. -/
inductive Aside (c : Chronicle) : Chronicle → Prop
  | refl : Aside c c
  | note {c' : Chronicle} {kind : EventKind} (event : Event kind) (rest : Aside c c')
      (begins : kind ≠ .playerConnected) (ends : kind ≠ .playerDisconnected) :
      Aside c (c'.note kind event)

theorem Aside.sessions {c' : Chronicle} (h : Aside c c') : c'.sessions = c.sessions := by
  induction h with
  | refl => rfl
  | note _ _ _ _ ih => exact ih

theorem Complete.aside {c' : Chronicle} (hc : c.Complete) (h : Aside c c') : c'.Complete := by
  induction h with
  | refl => exact hc
  | note event rest begins ends ih =>
      exact ⟨ih.truthful.note ends event,
        ih.beginnings.snoc (Posting.begun?_eq_none begins event _)⟩

theorem Complete.same (h : c.Complete) (hr : c.sessions.SameMembers r) :
    Complete { c with sessions := r } where
  truthful := h.truthful.same hr
  beginnings := by
    rw [hr.nextNumber]
    exact h.beginnings

/-- A session is removed, and its end is told if it was registered. -/
def departed (c : Chronicle) (id : SessionId) (reason : Option String) : Chronicle :=
  let (removed, sessions) := c.sessions.remove id
  let left := { c with sessions := sessions }
  if removed then left.note .playerDisconnected ⟨id, reason⟩ else left

theorem Complete.departed (h : c.Complete) (id : SessionId) (reason : Option String) :
    (c.departed id reason).Complete ∧
      (c.departed id reason).sessions.nextNumber = c.sessions.nextNumber ∧
      (c.departed id reason).sessions.isRegistered id = false := by
  unfold Chronicle.departed
  rcases c.sessions.remove_cases id with ⟨hgone, hremove⟩ | ⟨hremoved, hdrops⟩
  · rw [hremove]
    exact ⟨h, rfl, hgone⟩
  · dsimp only
    rw [if_pos hremoved]
    refine ⟨⟨h.truthful.drops hdrops reason, ?_⟩, hdrops.nextNumber, ?_⟩
    · rw [Chronicle.note, hdrops.nextNumber]
      exact h.beginnings.snoc rfl
    · exact (hdrops.isRegistered id).trans (if_pos rfl)

/-- When the session that was opened last has departed, none is left from its number on. -/
theorem Complete.isRegistered_departed (h : c.Complete) {last id : SessionId}
    (hlast : c.sessions.nextNumber = last.number + 1) (reason : Option String)
    (hid : last.number ≤ id.number) :
    (c.departed last reason).sessions.isRegistered id = false := by
  obtain ⟨hdeparted, hnumber, hgone⟩ := h.departed last reason
  rcases Nat.eq_or_lt_of_le hid with hsame | hlater
  · have hid : last = id := congrArg SessionId.mk hsame
    rwa [← hid]
  · refine hdeparted.truthful.isRegistered_of_le ?_
    rw [hnumber, hlast]
    exact hlater

/-- The end of a session is told if it has been replaced. -/
def replacing (c : Chronicle) (reason : Option String) : Option SessionId → Chronicle
  | none => c
  | some old => c.note .playerDisconnected ⟨old, reason⟩

/-- A session is opened for a player; the end of the one that it replaces is told before its
own beginning is. -/
def welcomed (c : Chronicle) (session : Session) (player : Uuid) (reason : Option String)
    (address : Option ClientAddress) : Chronicle :=
  let (replaced, sessions) :=
    (c.sessions.add session true).2.bindPlayer ⟨c.sessions.nextNumber⟩ player
  (replacing { c with sessions := sessions } reason replaced).note
    .playerConnected ⟨⟨c.sessions.nextNumber⟩, address⟩

/-- The index has the new session for the player. -/
theorem byPlayer_welcomed (c : Chronicle) (session : Session) (player : Uuid)
    (reason : Option String) (address : Option ClientAddress) :
    (c.welcomed session player reason address).sessions.byPlayer.get? player =
      some ⟨c.sessions.nextNumber⟩ := by
  have hsessions : (c.welcomed session player reason address).sessions =
      ((c.sessions.add session true).2.bindPlayer ⟨c.sessions.nextNumber⟩ player).2 := by
    unfold Chronicle.welcomed
    dsimp only
    cases ((c.sessions.add session true).2.bindPlayer ⟨c.sessions.nextNumber⟩ player).1 with
    | none => rfl
    | some replaced => rfl
  rw [hsessions, SessionRegistry.byPlayer_bindPlayer, Table.get?_insert, if_pos rfl]

theorem Complete.welcomed (h : c.Complete) (session : Session) (player : Uuid)
    (reason : Option String) (address : Option ClientAddress) :
    (c.welcomed session player reason address).Complete ∧
      (c.welcomed session player reason address).sessions.nextNumber = c.sessions.nextNumber + 1 ∧
      (c.welcomed session player reason address).sessions.get ⟨c.sessions.nextNumber⟩ =
        .ok { session with player := some player } := by
  let event : Event .playerConnected := ⟨⟨c.sessions.nextNumber⟩, address⟩
  have hkind : EventKind.playerConnected ≠ .playerDisconnected := by decide
  unfold Chronicle.welcomed
  obtain ⟨entered, hopens, hsession, hbound | ⟨replaced, hne, hregistered, hbound⟩⟩ :=
    c.sessions.openFor_cases session player
  · rw [hbound]
    have htruthful := (h.truthful.opens hopens).note hkind event
    refine ⟨⟨htruthful, ?_⟩, hopens.nextNumber, ?_⟩
    · show TellsBeginnings _ entered.nextNumber
      rw [hopens.nextNumber]
      exact h.beginnings.snoc_next rfl
    · refine SessionRegistry.get_eq_ok_iff.mpr ⟨hsession, ?_⟩
      exact (hopens.isRegistered _).trans (if_pos rfl)
  · -- The other one has ended before this one begins.
    rw [hbound]
    have hdrops := SessionRegistry.Drops.retire hregistered
    have htruthful := ((h.truthful.opens hopens).drops hdrops reason).note hkind event
    refine ⟨⟨htruthful, ?_⟩, hdrops.nextNumber.trans hopens.nextNumber, ?_⟩
    · show TellsBeginnings _ (entered.retire replaced).nextNumber
      rw [hdrops.nextNumber, hopens.nextNumber]
      exact (h.beginnings.snoc rfl).snoc_next rfl
    · refine SessionRegistry.get_retire_eq_ok_iff.mpr ⟨Ne.symm hne, ?_⟩
      refine SessionRegistry.get_eq_ok_iff.mpr ⟨hsession, ?_⟩
      exact (hopens.isRegistered _).trans (if_pos rfl)

end Chronicle

end GameGateway
