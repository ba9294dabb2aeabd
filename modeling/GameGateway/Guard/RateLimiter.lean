import GameGateway.Clock
import GameGateway.Table

/-!
# Rate limits

Every key has windows of its own.  A call opens a window if the key has none or
the last one is over, and a window admits a fixed number of calls.  Now and then
the limiter forgets keys that have been idle for two windows.
-/

namespace GameGateway

/-- Length of a window and the calls it admits. -/
structure RateLimitConfig where
  window : Millis := 10000
  maxEvents : UInt32 := 20
deriving DecidableEq

/-- When a window began and how many calls it has admitted. -/
structure CallWindow where
  startedAt : Millis
  count : Nat
deriving DecidableEq

/-- A limiter for calls under keys. -/
structure RateLimiter (κ : Type) where
  window : Millis
  maxEvents : Nat
  windows : Table κ CallWindow
  lastSweep : Millis

namespace RateLimiter

variable {κ : Type}

/-- A limiter that has seen no call, opened at `now`; both values are raised to at
least one. -/
def new (config : RateLimitConfig) (now : Millis) : RateLimiter κ where
  window := max 1 config.window
  maxEvents := max 1 config.maxEvents.toNat
  windows := .empty
  lastSweep := now

/-- Number of keys with a window. -/
def trackedKeys (l : RateLimiter κ) : Nat := l.windows.size

/-- Forgets the keys that have been idle for two windows, at most once per window. -/
def sweep (l : RateLimiter κ) (now : Millis) : RateLimiter κ :=
  if now.saturatingSub l.lastSweep < l.window then l
  else { l with
    windows := l.windows.filter fun _ w => now - w.startedAt < l.window.saturatingMul 2
    lastSweep := now }

/-- Whether a call in the given window is admitted, and the window afterwards. -/
def step (window : Millis) (maxEvents : Nat) (now : Millis) : Option CallWindow → Bool × CallWindow
  | none => (true, ⟨now, 1⟩)
  | some w =>
      if window ≤ now - w.startedAt then (true, ⟨now, 1⟩)
      else if w.count < maxEvents then (true, { w with count := w.count + 1 })
      else (false, w)

/-- A call under a key: the answer is whether it is admitted. -/
def tryAcquire [DecidableEq κ] (l : RateLimiter κ) (now : Millis) (key : κ) :
    Bool × RateLimiter κ :=
  let l := l.sweep now
  let (admitted, w) := step l.window l.maxEvents now (l.windows.get? key)
  (admitted, { l with windows := l.windows.insert key w })

end RateLimiter

end GameGateway
