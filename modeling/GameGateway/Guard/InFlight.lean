import GameGateway.Table

/-!
# Bounds on what is in flight

A limiter hands out leases up to a limit.  A lease returns its slot when it is
released for the first time; later releases, and dropping it afterwards, return
nothing.  `LeaseBook` keeps leases under names.
-/

namespace GameGateway

/-- The limit is reached. -/
structure Saturated where
  limit : Nat
deriving DecidableEq

/-- The sentence shown to people. -/
def Saturated.message (e : Saturated) : String :=
  s!"in-flight limit of {e.limit} reached"

/-- A bound on the number of leases, with the number that is out. -/
structure InFlight where
  limit : Nat
  count : Nat
deriving DecidableEq

namespace InFlight

/-- A limiter with no lease out; the limit is at least one. -/
def new (limit : Nat) : InFlight := ⟨max 1 limit, 0⟩

/-- Hands out a lease, unless as many are out as the limit admits. -/
def acquire (l : InFlight) : Except Saturated InFlight :=
  if l.limit ≤ l.count then .error ⟨l.limit⟩ else .ok { l with count := l.count + 1 }

/-- Takes one lease back. -/
def giveBack (l : InFlight) : InFlight := { l with count := l.count - 1 }

end InFlight

/-- A lease, which may have been released already. -/
structure Lease where
  released : Bool
deriving DecidableEq

/-- Releases a lease; only the first release returns its slot. -/
def Lease.release (lease : Lease) (l : InFlight) : Lease × InFlight :=
  if lease.released then (lease, l) else (⟨true⟩, l.giveBack)

/-- A limiter together with leases kept under names. -/
structure LeaseBook (κ : Type) where
  limiter : InFlight
  leases : Table κ Lease

namespace LeaseBook

variable {κ : Type} [DecidableEq κ]

/-- A book without leases. -/
def new (limit : Nat) : LeaseBook κ := ⟨.new limit, .empty⟩

/-- Drops the lease kept under a name: it is released if it was not yet. -/
def drop (book : LeaseBook κ) (name : κ) : LeaseBook κ :=
  match book.leases.get? name with
  | none => book
  | some lease => ⟨(lease.release book.limiter).2, book.leases.erase name⟩

/-- Takes a lease and keeps it under a name, dropping the one kept there before. -/
def acquire (book : LeaseBook κ) (name : κ) : Except Saturated (LeaseBook κ) := do
  let limiter ← book.limiter.acquire
  let book := drop { book with limiter := limiter } name
  return { book with leases := book.leases.insert name ⟨false⟩ }

/-- Releases the lease kept under a name and keeps it there. -/
def release (book : LeaseBook κ) (name : κ) : LeaseBook κ :=
  match book.leases.get? name with
  | none => book
  | some lease =>
      let (lease, limiter) := lease.release book.limiter
      ⟨limiter, book.leases.insert name lease⟩

/-- Is a lease kept under the name, released or not? -/
def holds (book : LeaseBook κ) (name : κ) : Bool := book.leases.contains name

end LeaseBook

end GameGateway
