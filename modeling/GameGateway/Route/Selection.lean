import GameGateway.Guard.InFlight
import GameGateway.Surroundings

/-!
# Choosing a backend

Only so many choices may be under way at once.  A choice first asks the observers,
then lets the router choose, and then tells the observers the outcome, if there is
one.  Its lease is given back in every case.
-/

namespace GameGateway

/-- The router with the bound on choices under way. -/
structure Routing where
  router : Router
  limiter : InFlight

namespace Routing

variable {σ : Type}

/-- A choice that holds its lease. -/
def decide (env : Surroundings σ) (slot : Slot σ Routing) (unavailable : σ → String → Bool)
    (context : RoutingContext) (initial : Bool) (s : σ) : Except RoutingError Selection × σ :=
  let (asked, s) := env.post .routePreSelect { context := context } s
  match (slot.get s).router.choose (unavailable s) context initial asked.decision with
  | .error e => (.error e, s)
  | .ok selection =>
      let (_, s) := env.post .routePostSelect ⟨context, selection.backend.id, selection.reason⟩ s
      (.ok selection, s)

/-- Chooses the backend for a connection: the first one of its player, or a later one. -/
def select (env : Surroundings σ) (slot : Slot σ Routing) (unavailable : σ → String → Bool)
    (context : RoutingContext) (initial : Bool) (s : σ) : Except RoutingError Selection × σ :=
  match (slot.get s).limiter.acquire with
  | .error e => (.error (.overloaded e.limit), s)
  | .ok limiter =>
      let s := slot.modify (fun routing => { routing with limiter := limiter }) s
      let (result, s) := decide env slot unavailable context initial s
      (result, slot.modify (fun routing => { routing with limiter := routing.limiter.giveBack }) s)

end Routing

end GameGateway
