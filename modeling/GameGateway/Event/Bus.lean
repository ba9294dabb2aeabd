import GameGateway.Surroundings

/-!
# The event bus

Observers register for one kind of event.  A posted event goes to the observers of
its kind that were registered when it was posted, in order of priority and, within
one priority, of registration.  An event may be cancelled and uncancelled on its
way; while it is cancelled it goes only to observers that asked for such events.

An observer that fails or panics keeps the changes it has made to the event, and
the others still get it.  What an observer does is a parameter of `post`: it may
change the event and the whole state, the bus included.
-/

namespace GameGateway

/-- When an observer gets an event, earliest first. -/
inductive Priority where
  | lowest
  | low
  | normal
  | high
  | highest
  | monitor
deriving DecidableEq

/-- The place of a priority in the order. -/
def Priority.rank : Priority → Nat
  | lowest => 0
  | low => 1
  | normal => 2
  | high => 3
  | highest => 4
  | monitor => 5

/-- How an observer wants to be called. -/
structure ObserverOptions where
  priority : Priority := .normal
  receivesCancelled : Bool := false
deriving DecidableEq

/-- How an observer came to its end. -/
inductive Completion where
  | done
  | failed
  | panicked
deriving DecidableEq

/-- An observer with its place on the bus. -/
structure Registration (κ ω : Type) where
  id : Nat
  kind : κ
  options : ObserverOptions
  observer : ω

/-- What an observer needs to leave the bus. -/
structure Subscription (κ : Type) where
  kind : κ
  id : Nat
deriving DecidableEq

/-- The registered observers, in the order in which they get events. -/
structure Bus (κ ω : Type) where
  registrations : List (Registration κ ω) := []
  nextId : Nat := 0

namespace Bus

variable {κ ω : Type}

/-- The registrations with one more behind all of the same or a lower priority. -/
def place (r : Registration κ ω) : List (Registration κ ω) → List (Registration κ ω)
  | [] => [r]
  | other :: rest =>
      if r.options.priority.rank < other.options.priority.rank then r :: other :: rest
      else other :: place r rest

/-- The bus with one more observer. -/
def register (bus : Bus κ ω) (kind : κ) (options : ObserverOptions) (observer : ω) :
    Subscription κ × Bus κ ω :=
  (⟨kind, bus.nextId⟩,
    ⟨place ⟨bus.nextId, kind, options, observer⟩ bus.registrations, bus.nextId + 1⟩)

variable [DecidableEq κ]

/-- Does the subscription belong to the registration? -/
def matchesRegistration (s : Subscription κ) (r : Registration κ ω) : Bool :=
  r.kind = s.kind && r.id = s.id

/-- The bus without an observer; the answer is whether it was there. -/
def unregister (bus : Bus κ ω) (s : Subscription κ) : Bool × Bus κ ω :=
  (bus.registrations.any (matchesRegistration s),
    { bus with registrations := bus.registrations.filter fun r => !matchesRegistration s r })

/-- The observers of one kind of event, in the order in which they get it. -/
def observers (bus : Bus κ ω) (kind : κ) : List (Registration κ ω) :=
  bus.registrations.filter fun r => r.kind = kind

variable {ε σ : Type}

/-- Hands an event to observers one after the other, leaving out those that do not
want it as it then is. -/
def deliver (cancelled : ε → Bool) (run : ω → ε → σ → Completion × ε × σ) :
    List (Registration κ ω) → ε → σ → ε × σ
  | [], event, s => (event, s)
  | r :: rest, event, s =>
      if cancelled event && !r.options.receivesCancelled then deliver cancelled run rest event s
      else
        -- How the observer came to its end does not matter to the others.
        let (_, event, s) := run r.observer event s
        deliver cancelled run rest event s

/-- Posts an event: it goes to the observers that are registered now. -/
def post (slot : Slot σ (Bus κ ω)) (cancelled : ε → Bool)
    (run : ω → ε → σ → Completion × ε × σ) (kind : κ) (event : ε) (s : σ) : ε × σ :=
  deliver cancelled run ((slot.get s).observers kind) event s

end Bus

end GameGateway
