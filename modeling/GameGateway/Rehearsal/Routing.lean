import GameGateway.Digest
import GameGateway.Rehearsal.Script
import GameGateway.Route.Selection

/-!
# Rehearsing routing

A routing rehearsal runs choices of backends with scripted observers and keeps notes
of what happens.  Observers may make further choices while one is under way; since
each of them holds a lease, they cannot nest deeper than the limit.
-/

namespace GameGateway

/-- A choice that an observer makes: whether it is for a first backend, and for whom. -/
structure Choice where
  initial : Bool
  context : RoutingContext

/-- What happened in a routing rehearsal. -/
inductive RoutingNote where
  | asked (context : RoutingContext)
  | chosen (event : RoutePostSelect)
  | spoke (observer : String) (word : RoutingDecision) (result : Except RoutingError Unit)
  | chose (observer : String) (result : Except RoutingError Selection)

/-- Who observes a routing rehearsal. -/
inductive RoutingObserver where
  /-- Notes down the events. -/
  | recorder
  | scripted (script : Script Choice)

/-- Routing with its observers and with leases that are held from outside. -/
structure RoutingRehearsal where
  routing : Routing
  bus : Bus EventKind RoutingObserver
  /-- Are the leases held from outside those of the router, or of a bound of their own? -/
  sharesLimiter : Bool
  leases : LeaseBook String
  /-- The backends to be avoided, if availability is looked at. -/
  down : Option (List String)
  /-- What happened, latest first. -/
  notes : List RoutingNote := []

namespace RoutingRehearsal

/-- Username of those for whom observers make no further choices. -/
def nestedUser : String := "nested"

/-- A rehearsal with a recorder before and one after all other observers. -/
def new (router : Router) (limit : Nat) (sharesLimiter : Bool) (down : Option (List String)) :
    RoutingRehearsal where
  routing := ⟨router, .new limit⟩
  bus :=
    let (_, bus) := ({} : Bus EventKind RoutingObserver).register .routePreSelect
      { priority := .lowest } .recorder
    (bus.register .routePostSelect { priority := .monitor } .recorder).2
  sharesLimiter := sharesLimiter
  leases := .new limit
  down := down

/-- The routing part. -/
def routingSlot : Slot RoutingRehearsal Routing where
  get := routing
  set := fun routing rehearsal => { rehearsal with routing := routing }
  get_set := fun _ _ => rfl
  set_get := fun _ => rfl
  set_set := fun _ _ _ => rfl

/-- The observers. -/
def busSlot : Slot RoutingRehearsal (Bus EventKind RoutingObserver) where
  get := bus
  set := fun bus rehearsal => { rehearsal with bus := bus }
  get_set := fun _ _ => rfl
  set_get := fun _ => rfl
  set_set := fun _ _ _ => rfl

/-- The rehearsal with one more note. -/
def note (n : RoutingNote) (rehearsal : RoutingRehearsal) : RoutingRehearsal :=
  { rehearsal with notes := n :: rehearsal.notes }

/-- What has been noted, oldest first, and the rehearsal without notes. -/
def takeNotes (rehearsal : RoutingRehearsal) : List RoutingNote × RoutingRehearsal :=
  (rehearsal.notes.reverse, { rehearsal with notes := [] })

/-- Notes an event down. -/
def recordEvent : (kind : EventKind) → Event kind → RoutingRehearsal → RoutingRehearsal
  | .routePreSelect, event => note (.asked event.context)
  | .routePostSelect, event => note (.chosen event)
  | .playerConnected, _ => id
  | .playerAuthenticated, _ => id
  | .playerDisconnected, _ => id
  | .tokenValidated, _ => id
  | .backendStatusChanged, _ => id
  | .transferCompleted, _ => id

/-- For whom is an event, if it says so? -/
def username? : (kind : EventKind) → Event kind → Option String
  | .routePreSelect, event => event.context.username
  | .routePostSelect, event => event.context.username
  | .playerConnected, _ => none
  | .playerAuthenticated, _ => none
  | .playerDisconnected, _ => none
  | .tokenValidated, _ => none
  | .backendStatusChanged, _ => none
  | .transferCompleted, _ => none

/-- What makes a choice. -/
abbrev Chooser := Choice → RoutingRehearsal → Except RoutingError Selection × RoutingRehearsal

/-- What an observer does with an event. -/
def observe (choose : Chooser) (kind : EventKind) (observer : RoutingObserver) (event : Event kind)
    (rehearsal : RoutingRehearsal) : Completion × Event kind × RoutingRehearsal :=
  match observer with
  | .recorder => (.done, event, recordEvent kind event rehearsal)
  | .scripted script =>
      let spoke (word : RoutingDecision) (result : Except RoutingError Unit) :=
        note (.spoke script.name word result)
      let act (choice : Choice) (event : Event kind) (rehearsal : RoutingRehearsal) :=
        if username? kind event = some nestedUser then rehearsal
        else
          let (result, rehearsal) := choose choice rehearsal
          note (.chose script.name result) rehearsal
      Script.runDeeds kind spoke act script.deeds event rehearsal

/-- What routing finds around it, given the way in which observers make choices. -/
def surroundings (choose : Chooser) : Surroundings RoutingRehearsal where
  now := fun _ => 0
  draw := fun rehearsal => (Draws.value 0, rehearsal)
  post := fun kind => Bus.post busSlot (fun _ => false) (observe choose kind) kind
  send := fun _ _ rehearsal => (.error .noPeer, rehearsal)

/-- Makes a choice; `fuel` bounds how deep choices nest. -/
def chooseWithin : (fuel : Nat) → Chooser
  | 0, _, rehearsal => (.error (.overloaded rehearsal.routing.limiter.limit), rehearsal)
  | fuel + 1, choice, rehearsal =>
      Routing.select (surroundings (chooseWithin fuel)) routingSlot
        (fun rehearsal backend => (rehearsal.down.getD []).contains backend)
        choice.context choice.initial rehearsal

/-- Makes a choice. -/
def choose (choice : Choice) (rehearsal : RoutingRehearsal) :
    Except RoutingError Selection × RoutingRehearsal :=
  chooseWithin (rehearsal.routing.limiter.limit + 1) choice rehearsal

/-! ## Preparations -/

/-- Adds a scripted observer. -/
def addObserver (rehearsal : RoutingRehearsal) (options : ObserverOptions)
    (script : Script Choice) : RoutingRehearsal :=
  { rehearsal with bus := (rehearsal.bus.register .routePreSelect options (.scripted script)).2 }

/-- Changes the leases held from outside. -/
def changeLeases (rehearsal : RoutingRehearsal) (f : LeaseBook String → LeaseBook String) :
    RoutingRehearsal :=
  if rehearsal.sharesLimiter then
    let leases := f { rehearsal.leases with limiter := rehearsal.routing.limiter }
    { rehearsal with
      leases := leases
      routing := { rehearsal.routing with limiter := leases.limiter } }
  else { rehearsal with leases := f rehearsal.leases }

/-- Takes a lease from outside and holds it under a name. -/
def hold (rehearsal : RoutingRehearsal) (name : String) : Except Saturated RoutingRehearsal :=
  let limiter := if rehearsal.sharesLimiter then rehearsal.routing.limiter
    else rehearsal.leases.limiter
  match limiter.acquire with
  | .error e => .error e
  | .ok _ => .ok (rehearsal.changeLeases fun leases =>
      match leases.acquire name with
      | .ok leases => leases
      | .error _ => leases)

/-- Gives up the lease held under a name; the answer is whether there was one. -/
def free (rehearsal : RoutingRehearsal) (name : String) : Bool × RoutingRehearsal :=
  (rehearsal.leases.holds name, rehearsal.changeLeases fun leases => leases.drop name)

end RoutingRehearsal

end GameGateway
