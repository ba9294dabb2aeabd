import GameGateway.Route.Context
import GameGateway.Route.Decision

/-!
# Strategies and the router

A strategy names a backend for a connection, one way for the first backend of a
player and another way for later ones.  The router looks the name up and falls back
to the default backend if there is none of that name.  Without an installed
strategy the first backend is the default one, and later ones are those asked for.
-/

namespace GameGateway

/-- A way to name backends. -/
structure Strategy where
  /-- The first backend of a player. -/
  initial : RoutingContext → String
  /-- The backends after that. -/
  subsequent : RoutingContext → String

namespace Strategy

/-- The id that a strategy names. -/
def pick (strategy : Strategy) (context : RoutingContext) (initial : Bool) : String :=
  if initial then strategy.initial context else strategy.subsequent context

/-- The default backend first, then those asked for. -/
def byRequest (fallback : String) : Strategy where
  initial := fun _ => fallback
  subsequent := fun context => context.requested.getD fallback

end Strategy

/-- How a backend came to be chosen. -/
inductive SelectionReason where
  | byDefault
  | byStrategy
  /-- An observer suggested it. -/
  | byObserver
  /-- It is the one asked for. -/
  | byRequest
deriving DecidableEq

/-- The name shown to people. -/
def SelectionReason.name : SelectionReason → String
  | byDefault => "DEFAULT"
  | byStrategy => "STRATEGY"
  | byObserver => "OVERRIDE"
  | byRequest => "TRANSFER"

/-- A chosen backend with the reason. -/
structure Selection where
  backend : Backend
  reason : SelectionReason
deriving DecidableEq

/-- The backends with the rules by which they are named. -/
structure Router where
  backends : BackendRegistry
  fallback : String
  /-- The installed strategy and its name. -/
  installed : Option (String × Strategy) := none

namespace Router

/-- The strategy in force. -/
def strategy (router : Router) : Strategy :=
  match router.installed with
  | some (_, strategy) => strategy
  | none => .byRequest router.fallback

/-- The backend that the strategy in force names, or the default one if there is none
of that name. -/
def select (router : Router) (context : RoutingContext) (initial : Bool) :
    Except RoutingError Selection :=
  match router.backends.get? (router.strategy.pick context initial) with
  | some backend => .ok ⟨backend, if router.installed.isSome then .byStrategy else .byDefault⟩
  | none =>
      match router.backends.get? router.fallback with
      | some backend => .ok ⟨backend, .byDefault⟩
      | none => .error (.missingDefault router.fallback)

/-- A selection, or another backend in its place if it should be avoided for now: the
one that a player who asks for nothing is sent to first, if it is another one and
need not be avoided itself. -/
def avoid (router : Router) (unavailable : String → Bool) (context : RoutingContext)
    (selection : Selection) : Selection :=
  if !unavailable selection.backend.id then selection
  else
    match router.select { context with requested := none } true with
    | .error _ => selection
    | .ok other =>
        if other.backend.id = selection.backend.id ∨ unavailable other.backend.id then selection
        else other

/-- The backend before availability is looked at. -/
def prefer (router : Router) (context : RoutingContext) (initial : Bool) :
    RoutingDecision → Except RoutingError Selection
  | .denied reason => .error (.denied reason)
  | .suggested id =>
      match router.backends.get? id with
      | some backend => .ok ⟨backend, .byObserver⟩
      | none => .error (.unknownOverride id)
  | .undecided => do
      -- The reason tells that the wish was granted, whoever named the backend.
      let selection ← router.select context initial
      return if context.requested = some selection.backend.id then
        { selection with reason := .byRequest } else selection

/-- The backend for a connection once the observers have spoken. -/
def choose (router : Router) (unavailable : String → Bool) (context : RoutingContext)
    (initial : Bool) (decision : RoutingDecision) : Except RoutingError Selection := do
  let selection ← router.prefer context initial decision
  return router.avoid unavailable context selection

end Router

end GameGateway
