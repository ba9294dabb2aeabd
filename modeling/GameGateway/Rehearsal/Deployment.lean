import GameGateway.Channel.Loopback
import GameGateway.Digest
import GameGateway.Node.Basic
import GameGateway.Proxy.Connection
import GameGateway.Proxy.Transfer
import GameGateway.Rehearsal.NamedLinks
import GameGateway.Rehearsal.Script

/-!
# Rehearsing a deployment

A deployment is a proxy with some backends in one process.  They share a clock and
exchange messages over a loopback network; game servers and observers follow scripts,
and notes are kept of what happens.

Messages are handled while they are sent, and observers may inject further packets.
Every packet that is handled holds a lease at its endpoint, so calls cannot nest
deeper than the limits of all endpoints together.
-/

namespace GameGateway

/-- An end of the network. -/
inductive Place where
  | proxy
  | backend (name : String)
deriving DecidableEq

/-- The name of a place. -/
def Place.name : Place → String
  | proxy => "proxy"
  | backend name => name

/-- A packet that is handed to an endpoint from outside. -/
structure Injection where
  target : Place
  channel : String
  packet : Bytes

/-- The packet that an observer injects, if it can be made: it may name the transfers that
are known by then, which are given in order. -/
abbrev InjectionPlan := List Uuid → Option Injection

/-- Who observes a deployment. -/
inductive DeploymentObserver where
  /-- Notes down the events. -/
  | recorder
  | scripted (script : Script InjectionPlan)

/-- What happened in a deployment. -/
inductive DeploymentNote where
  /-- An event, with the state in which its session was, if it has one. -/
  | event (kind : EventKind) (event : Event kind) (state : Option SessionState)
  | redirected (backend : String) (player : Uuid) (proxy : HostAddress) (referral : Bytes)
      (completion : Completion)
  | called (observer : String)
  | spoke (observer : String) (word : RoutingDecision) (result : Except RoutingError Unit)
  | injected (observer : String) (handled : Bool)

/-- Signs of life that a backend sends again and again; times are those of the
rehearsal's second clock. -/
structure Heartbeat where
  period : Nat
  next : Nat
deriving DecidableEq

/-- A backend with its game server. -/
structure Site where
  node : BackendNode
  /-- The players on the game server. -/
  connected : List Uuid := []
  /-- How redirects come to their end. -/
  redirects : Completion := .done
  running : Bool := true
  heartbeat : Option Heartbeat := none

/-- A packet that was sent. -/
structure SentPacket where
  source : Place
  channel : String
  packet : Bytes

/-- A proxy with some backends. -/
structure Deployment where
  now : Millis
  /-- The second clock, in milliseconds since the beginning; heartbeats follow it. -/
  elapsed : Nat := 0
  draws : Draws := {}
  bus : Bus EventKind DeploymentObserver := {}
  proxy : Proxy
  /-- The names of the backends, in order. -/
  names : List String
  site : String → Site
  net : Loopback Place Unit := {}
  links : NamedLinks := {}
  /-- What the requested transfers are known by, in the order in which they became known. -/
  transfers : List Uuid := []
  /-- The packets that were sent and collected, latest first. -/
  packets : List SentPacket := []
  /-- How many of them have been carried to their receivers. -/
  carried : Nat := 0
  /-- What happened, latest first. -/
  notes : List DeploymentNote := []

namespace Deployment

/-! ## Parts -/

/-- The proxy. -/
def proxySlot : Slot Deployment Proxy where
  get := proxy
  set := fun proxy d => { d with proxy := proxy }
  get_set := fun _ _ => rfl
  set_get := fun _ => rfl
  set_set := fun _ _ _ => rfl

/-- The proxy's side of the control channel. -/
def planeSlot : Slot Deployment ProxyPlane := proxySlot.comp Proxy.planeSlot

/-- The backends by their names. -/
def sitesSlot : Slot Deployment (String → Site) where
  get := site
  set := fun site d => { d with site := site }
  get_set := fun _ _ => rfl
  set_get := fun _ => rfl
  set_set := fun _ _ _ => rfl

/-- One backend. -/
def siteSlot (name : String) : Slot Deployment Site := sitesSlot.comp (.point name)

/-- The node as a part of a site. -/
def siteNodeSlot : Slot Site BackendNode where
  get := Site.node
  set := fun node site => { site with node := node }
  get_set := fun _ _ => rfl
  set_get := fun _ => rfl
  set_set := fun _ _ _ => rfl

/-- The node of one backend. -/
def nodeSlot (name : String) : Slot Deployment BackendNode := (siteSlot name).comp siteNodeSlot

/-- The control side of one backend. -/
def backendSlot (name : String) : Slot Deployment BackendPlane :=
  (nodeSlot name).comp BackendNode.planeSlot

/-- The observers. -/
def busSlot : Slot Deployment (Bus EventKind DeploymentObserver) where
  get := bus
  set := fun bus d => { d with bus := bus }
  get_set := fun _ _ => rfl
  set_get := fun _ => rfl
  set_set := fun _ _ _ => rfl

/-- The network. -/
def netSlot : Slot Deployment (Loopback Place Unit) where
  get := net
  set := fun net d => { d with net := net }
  get_set := fun _ _ => rfl
  set_get := fun _ => rfl
  set_set := fun _ _ _ => rfl

/-- All places, in the order of their names. -/
def places (d : Deployment) : List Place :=
  let (before, after) := d.names.partition (· < Place.proxy.name)
  before.map .backend ++ .proxy :: after.map .backend

/-- Does anything at the place handle packets? -/
def isPresent (d : Deployment) : Place → Bool
  | .proxy => true
  | .backend name => d.names.contains name && (d.site name).running

/-! ## Notes -/

/-- The deployment with one more note. -/
def note (n : DeploymentNote) (d : Deployment) : Deployment := { d with notes := n :: d.notes }

/-- What has been noted, oldest first, and the deployment without notes. -/
def takeNotes (d : Deployment) : List DeploymentNote × Deployment :=
  (d.notes.reverse, { d with notes := [] })

/-- The deployment in which a transfer that was requested here is known. -/
def learnTransfer (id : Uuid) (d : Deployment) : Deployment :=
  if d.draws.drawn.contains id.octets && !d.transfers.contains id then
    { d with transfers := d.transfers ++ [id] }
  else d

/-- The deployment after an event has become known, and with it the transfer that it is
about. -/
def learnEvent : (kind : EventKind) → Event kind → Deployment → Deployment
  | .transferCompleted, event => learnTransfer event.correlation
  | .playerConnected, _ => id
  | .playerAuthenticated, _ => id
  | .playerDisconnected, _ => id
  | .routePreSelect, _ => id
  | .routePostSelect, _ => id
  | .tokenValidated, _ => id
  | .backendStatusChanged, _ => id

/-- The session that an event is about. -/
def sessionOf? : (kind : EventKind) → Event kind → Option SessionId
  | .playerConnected, event => some event.session
  | .playerAuthenticated, event => some event.session
  | .playerDisconnected, event => some event.session
  | .routePreSelect, _ => none
  | .routePostSelect, _ => none
  | .tokenValidated, _ => none
  | .backendStatusChanged, _ => none
  | .transferCompleted, _ => none

/-- The state of a session. -/
def sessionState? (d : Deployment) (id : SessionId) : Option SessionState :=
  (d.proxy.session? id).map Session.state

/-! ## Calls that reach other parts -/

/-- What handles the packets that arrive at a place. -/
abbrev Receiver := Unit → Place → Bytes → Deployment → Deployment

/-- Hands a packet to an endpoint; the answer is whether it has a handler for it. -/
def inject (receive : Receiver) (injection : Injection) (d : Deployment) : Bool × Deployment :=
  Loopback.deliver netSlot receive injection.target injection.channel injection.packet d

/-- What an observer does with an event. -/
def observe (receive : Receiver) (kind : EventKind) (observer : DeploymentObserver)
    (event : Event kind) (d : Deployment) : Completion × Event kind × Deployment :=
  match observer with
  | .recorder =>
      -- The answer to a request may come in, and observers may name it, while it is being sent.
      (.done, event, learnEvent kind event
        (d.note (.event kind event ((sessionOf? kind event).bind d.sessionState?))))
  | .scripted script =>
      let act (plan : InjectionPlan) (_ : Event kind) (d : Deployment) : Deployment :=
        match plan d.transfers with
        | none => d.note (.injected script.name false)
        | some injection =>
            let (handled, d) := inject receive injection d
            d.note (.injected script.name handled)
      let spoke (word : RoutingDecision) (result : Except RoutingError Unit) :=
        note (.spoke script.name word result)
      Script.runDeeds kind spoke act script.deeds event (d.note (.called script.name))

/-- What the parts at a place find around them. -/
def surroundings (receive : Receiver) (place : Place) : Surroundings Deployment where
  now := now
  draw := fun d =>
    let (value, draws) := d.draws.next
    (value, { d with draws := draws })
  post := fun kind => Bus.post busSlot (fun _ => false) (observe receive kind) kind
  send := Loopback.send netSlot receive place

/-- The game server of a backend. -/
def gameServer (name : String) : GameServer Deployment where
  isConnected := fun d player => (d.site name).connected.contains player
  redirect := fun player proxy referral d =>
    let completion := (d.site name).redirects
    (completion, d.note (.redirected name player proxy referral completion))

/-- Handles a packet that has arrived at a place. -/
def handle (receive : Receiver) (place : Place) (packet : Bytes) (d : Deployment) : Deployment :=
  match place with
  | .proxy => ProxyPlane.handlePacket (surroundings receive .proxy) planeSlot packet d
  | .backend name =>
      if d.isPresent (.backend name) then
        BackendPlane.handlePacket (surroundings receive (.backend name)) (backendSlot name)
          (gameServer name) packet d
      else d

/-- Handles a packet, with calls nested no deeper than `fuel`. -/
def receiveWithin : (fuel : Nat) → Receiver
  | 0, _, _, _, d => d
  | fuel + 1, _, place, packet, d => handle (receiveWithin fuel) place packet d

/-- A bound on how deep calls nest: all leases, and one packet more that is refused. -/
def depth (d : Deployment) : Nat :=
  (d.names.map fun name => (d.site name).node.plane.endpoint.limiter.limit).foldl (· + ·) 0 +
    d.proxy.plane.endpoint.limiter.limit + 1

/-- Handles a packet that has arrived at a place. -/
def receiver (d : Deployment) : Receiver := receiveWithin d.depth

/-- What the parts at a place find around them. -/
def around (d : Deployment) (place : Place) : Surroundings Deployment :=
  surroundings d.receiver place

/-! ## Setting up -/

/-- The kinds of events, each with the priority of its recorder. -/
def recorders : List (EventKind × Priority) :=
  [(.playerConnected, .lowest), (.playerAuthenticated, .lowest), (.playerDisconnected, .lowest),
    (.routePreSelect, .monitor), (.routePostSelect, .lowest), (.tokenValidated, .lowest),
    (.backendStatusChanged, .lowest), (.transferCompleted, .lowest)]

/-- A deployment of a proxy and backends; with `paired` the proxy and the first backend
exchange their messages at once. -/
def start (now : Millis) (proxy : Proxy) (sites : List (String × Site)) (paired : Bool) :
    Deployment :=
  let names := (sites.map Prod.fst).mergeSort (· ≤ ·)
  let places := .proxy :: names.map .backend
  let net : Loopback Place Unit := places.foldl (fun net place => net.add place) {}
  let net := places.foldl
    (fun net place => (net.register place controlChannel ()).toOption.getD net) net
  let net := match paired, sites with
    | true, (first, _) :: _ => net.pair .proxy (.backend first)
    | _, _ => net
  { now := now
    proxy := proxy
    names := names
    site := fun name => (sites.lookup name).getD { node := .start {} now }
    net := net
    bus := recorders.foldl
      (fun bus (kind, priority) => (bus.register kind { priority := priority } .recorder).2) {} }

/-! ## What was sent -/

/-- Takes what the endpoints have sent, place by place; the answer has it oldest first. -/
def collect (d : Deployment) : List SentPacket × Deployment :=
  let (fresh, net) := d.places.foldl (fun (fresh, net) place =>
    let (sent, net) := net.takeSent place
    (fresh ++ sent.map fun (channel, packet) => ⟨place, channel, packet⟩, net))
    (([] : List SentPacket), d.net)
  (fresh, { d with net := net, packets := fresh.reverse ++ d.packets })

/-- A collected packet by its number. -/
def packet? (d : Deployment) (number : Nat) : Option SentPacket :=
  if number < d.packets.length then d.packets[d.packets.length - 1 - number]? else none

/-- The places that a packet is meant for. -/
def receivers (d : Deployment) (sent : SentPacket) : List Place :=
  match sent.source with
  | .proxy => d.names.map .backend
  | .backend _ => [.proxy]

/-- Hands a collected packet to all it is meant for, collecting what they send. -/
def carry (d : Deployment) (sent : SentPacket) : Deployment :=
  (d.receivers sent).foldl (fun d place =>
    (inject d.receiver ⟨place, sent.channel, sent.packet⟩ d).2.collect.2) d

/-- Carries collected packets that were not carried yet, oldest first, as long as there
are any, but no more than `most`; the answer counts the places they were handed to. -/
def pump : (most : Nat) → Deployment → Nat × Deployment
  | 0, d => (0, d)
  | most + 1, d =>
      match d.packet? d.carried with
      | none => (0, d)
      | some sent =>
          let (count, d') := pump most ({ d with carried := d.carried + 1 }.carry sent)
          (count + (d.receivers sent).length, d')

/-! ## Backends over time -/

/-- The deployment with one backend changed. -/
def changeSite (d : Deployment) (name : String) (f : Site → Site) : Deployment :=
  (siteSlot name).modify f d

/-- Lets a backend announce its status. -/
def announce (d : Deployment) (name : String) (status : BackendStatus) :
    Except ControlError Unit × Deployment :=
  BackendPlane.announce (d.around (.backend name)) (backendSlot name) status d

/-- Starts the heartbeat of a backend in the place of the one it had. -/
def startHeartbeat (d : Deployment) (name : String) (period : Nat) : Deployment :=
  d.changeSite name fun site =>
    { site with heartbeat := if period = 0 then none else some ⟨period, d.elapsed⟩ }

/-- The backend whose heartbeat is due first, if one is due before the given time. -/
def due? (d : Deployment) (limit : Nat) : Option (String × Heartbeat) :=
  let beats := d.names.filterMap fun name => do
    let beat ← (d.site name).heartbeat
    if beat.next < limit ∧ (d.site name).running then some (name, beat) else none
  match beats with
  | [] => none
  | first :: rest => some (rest.foldl (fun a b => if b.2.next < a.2.next then b else a) first)

/-- Lets heartbeats fall due until the given time, but no more than `most`. -/
def beat (limit : Nat) : (most : Nat) → Deployment → Deployment
  | 0, d => d
  | most + 1, d =>
      match d.due? limit with
      | none => d
      | some (name, heartbeat) =>
          -- The next sign of life follows the last due time, not the end of the sleep.
          let d := d.changeSite name fun site =>
            { site with
              heartbeat := some { heartbeat with next := heartbeat.next + heartbeat.period } }
          beat limit most (d.announce name .online).2

/-- Lets time pass on the second clock. -/
def sleep (d : Deployment) (span : Nat) : Deployment :=
  let limit := d.elapsed + span
  { beat limit ((limit + 1) * d.names.length) d with elapsed := limit }

/-- The time between the announcements of a backend that shuts down. -/
def farewellSpacing : Nat := 30

/-- Shuts a backend's side of the control channel down: it says three times that it is
offline and handles no packets any more. -/
def shutdown (d : Deployment) (name : String) : Deployment :=
  let d := d.changeSite name fun site => { site with heartbeat := none }
  let d := (d.announce name .offline).2.sleep farewellSpacing
  let d := (d.announce name .offline).2.sleep farewellSpacing
  let d := (d.announce name .offline).2
  { d with net := d.net.unregister (.backend name) controlChannel }

/-! ## The proxy -/

/-- Accepts a connection; without the name of a link the client's link dies at once. -/
def accept (d : Deployment) (frame : Bytes) (link : Option String) (address : Option ClientAddress)
    (certificate : Option Bytes) : Except GatewayError Accepted × Deployment :=
  let (client, links) := match link.bind d.links.held? with
    | some id => (id, d.links)
    | none => d.links.createDead
  Proxy.acceptConnection (d.around .proxy) proxySlot frame client address certificate
    { d with links := links }

/-- Requests a transfer, which is known from then on at the latest. -/
def transfer (d : Deployment) (session : SessionId) (backend : String) :
    Except GatewayError Uuid × Deployment :=
  match Proxy.requestTransfer (d.around .proxy) proxySlot session backend d with
  | (.ok correlation, d) => (.ok correlation, d.learnTransfer correlation)
  | (.error e, d) => (.error e, d)

/-- Installs a strategy, or uninstalls the one there is; the answer is the name of the
strategy that was there. -/
def install (d : Deployment) (strategy : Option (String × Strategy)) : Option String × Deployment :=
  (d.proxy.routing.router.installed.map Prod.fst,
    (proxySlot.comp Proxy.routingSlot).modify (fun routing =>
      { routing with router := { routing.router with installed := strategy } }) d)

/-- Adds a scripted observer. -/
def addObserver (d : Deployment) (kind : EventKind) (options : ObserverOptions)
    (script : Script InjectionPlan) : Deployment :=
  { d with bus := (d.bus.register kind options (.scripted script)).2 }

end Deployment

end GameGateway
