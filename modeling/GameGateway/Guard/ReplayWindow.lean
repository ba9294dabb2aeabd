import GameGateway.Clock
import GameGateway.Table

/-!
# Replay windows

A replay window remembers the keys it has accepted and refuses each of them until
its window has passed.  Now and then it forgets the keys whose window is over, and
when it holds more keys than it may, it gives up those that were seen longest ago.
-/

namespace GameGateway

/-- For how long keys are refused and how many are remembered. -/
structure ReplayConfig where
  window : Millis := 10000
  maxEntries : Nat := 100000
deriving DecidableEq

/-- The configuration with both values raised to at least one. -/
def ReplayConfig.validated (config : ReplayConfig) : ReplayConfig where
  window := max 1 config.window
  maxEntries := max 1 config.maxEntries

/-- When a remembered key may be accepted again, and when it was last presented. -/
structure Sighting where
  expiresAt : Millis
  lastSeen : Millis
deriving DecidableEq

/-- The keys accepted lately. -/
structure ReplayWindow (κ : Type) where
  config : ReplayConfig
  sightings : Table κ Sighting
  lastSweep : Millis

namespace ReplayWindow

variable {κ : Type}

/-- A window that has seen no key, opened at `now`. -/
def new (config : ReplayConfig) (now : Millis) : ReplayWindow κ :=
  ⟨config.validated, .empty, now⟩

/-- Number of remembered keys. -/
def size (w : ReplayWindow κ) : Nat := w.sightings.size

/-- Forgets the keys whose window is over, at most once per window. -/
def sweep (w : ReplayWindow κ) (now : Millis) : ReplayWindow κ :=
  if now.saturatingSub w.lastSweep < w.config.window then w
  else { w with
    sightings := w.sightings.filter fun _ seen => now < seen.expiresAt
    lastSweep := now }

/-- Of two entries, the one seen longer ago.  Which of two that were seen at once is taken is
open; here it is the first one. -/
def older (a b : κ × Sighting) : κ × Sighting :=
  if b.2.lastSeen < a.2.lastSeen then b else a

/-- The key seen longest ago.  Among keys last seen at the same instant the choice is open; here
the one that came in first is taken. -/
def oldest? (sightings : Table κ Sighting) : Option κ :=
  match sightings.entries with
  | [] => none
  | first :: rest => some (rest.foldl older first).1

variable [DecidableEq κ]

/-- Gives up the given number of keys, those seen longest ago first. -/
def evict : (count : Nat) → Table κ Sighting → Table κ Sighting
  | 0, sightings => sightings
  | count + 1, sightings =>
      match oldest? sightings with
      | none => sightings
      | some key => evict count (sightings.erase key)

/-- Accepts a key, giving up old ones if there are then too many. -/
def accept (w : ReplayWindow κ) (now : Millis) (key : κ) : ReplayWindow κ :=
  let sightings := w.sightings.insert key ⟨now.saturatingAdd w.config.window, now⟩
  { w with sightings := evict (sightings.size - w.config.maxEntries) sightings }

/-- Presents a key: the answer is whether it was accepted.  A key still in its
window is refused and counts as seen. -/
def register (w : ReplayWindow κ) (now : Millis) (key : κ) : Bool × ReplayWindow κ :=
  let w := w.sweep now
  -- Between two sweeps a key may still be here although its window is over.
  match w.sightings.get? key with
  | some seen =>
      if now < seen.expiresAt then
        (false, { w with sightings := w.sightings.insert key { seen with lastSeen := now } })
      else (true, w.accept now key)
  | none => (true, w.accept now key)

end ReplayWindow

end GameGateway
