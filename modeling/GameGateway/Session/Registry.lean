import GameGateway.Session.Basic
import GameGateway.Table

/-!
# The registry of sessions

The registry knows every session that was ever opened and which of them are
registered.  It finds the session of a player through an index from players to
sessions: binding a session to a player displaces the registered session that was
the player's before, and removing a session clears the index entry only if it still
points to that session.
-/

namespace GameGateway

/-- A session with the note whether it is registered. -/
structure SessionEntry where
  session : Session
  registered : Bool
deriving DecidableEq

/-- All sessions with the index from players to them. -/
structure SessionRegistry where
  entries : Table SessionId SessionEntry := .empty
  byPlayer : Table Uuid SessionId := .empty
  nextNumber : Nat := 0

namespace SessionRegistry

/-- Opens a session, registered or not. -/
def add (r : SessionRegistry) (session : Session) (registered : Bool) :
    SessionId × SessionRegistry :=
  (⟨r.nextNumber⟩, { r with
    entries := r.entries.insert ⟨r.nextNumber⟩ ⟨session, registered⟩
    nextNumber := r.nextNumber + 1 })

/-- Opens a new registered session. -/
def create (r : SessionRegistry) : SessionId × SessionRegistry := r.add {} true

/-- A session, registered or not. -/
def session? (r : SessionRegistry) (id : SessionId) : Option Session :=
  (r.entries.get? id).map SessionEntry.session

/-- Is the session registered? -/
def isRegistered (r : SessionRegistry) (id : SessionId) : Bool :=
  ((r.entries.get? id).map SessionEntry.registered).getD false

/-- Number of registered sessions. -/
def size (r : SessionRegistry) : Nat :=
  (r.entries.values.filter SessionEntry.registered).length

/-- A registered session. -/
def get (r : SessionRegistry) (id : SessionId) : Except SessionError Session :=
  match r.entries.get? id with
  | some ⟨session, true⟩ => .ok session
  | _ => .error (.notFound id)

/-- The registry with a session changed. -/
def update (r : SessionRegistry) (id : SessionId) (f : Session → Session) : SessionRegistry :=
  { r with entries := r.entries.update id fun entry => { entry with session := f entry.session } }

/-- The registry with a session disconnected and no longer registered. -/
def retire (r : SessionRegistry) (id : SessionId) : SessionRegistry :=
  { r with entries := r.entries.update id fun entry => ⟨entry.session.disconnect, false⟩ }

/-- Binds a session to a player; the answer is the session that was displaced. -/
def bindPlayer (r : SessionRegistry) (id : SessionId) (player : Uuid) :
    Option SessionId × SessionRegistry :=
  -- The index may point to a session that is gone; such a one is not displaced.
  let previous := r.byPlayer.get? player
  let r := r.update id fun session => { session with player := some player }
  let r := { r with byPlayer := r.byPlayer.insert player id }
  match previous with
  | none => (none, r)
  | some previous =>
      if previous ≠ id ∧ r.isRegistered previous then (some previous, r.retire previous)
      else (none, r)

/-- The registered session of a player, unless it is disconnected. -/
def findByPlayer (r : SessionRegistry) (player : Uuid) : Option SessionId := do
  let id ← r.byPlayer.get? player
  match r.get id with
  | .ok session => if session.state.isTerminal then none else some id
  | .error _ => none

/-- The registry without the index entry of a player, if it points to the session. -/
def forget (r : SessionRegistry) (id : SessionId) : Option Uuid → SessionRegistry
  | none => r
  | some player =>
      if r.byPlayer.get? player = some id then { r with byPlayer := r.byPlayer.erase player } else r

/-- Takes a session out of the registry; the answer is whether it was registered. -/
def remove (r : SessionRegistry) (id : SessionId) : Bool × SessionRegistry :=
  match r.get id with
  | .ok session => (true, (r.forget id session.player).retire id)
  | .error _ => (false, r)

/-- Moves a session to a state; the answer is whether that changed anything. -/
def become (r : SessionRegistry) (id : SessionId) (next : SessionState) :
    Except SessionError Bool × SessionRegistry :=
  match r.session? id with
  | none => (.error (.notFound id), r)
  | some session =>
      match session.become next with
      | .ok (changed, session) => (.ok changed, r.update id fun _ => session)
      | .error e => (.error e, r)

end SessionRegistry

end GameGateway
