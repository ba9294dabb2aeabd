import GameGateway.Rehearsal.Deployment
import GameGateway.Report.Answer
import GameGateway.Report.Frame

/-!
# Reports of a rehearsal

A scene is a deployment with what scripts may come back to.  Whatever differs from run
to run has a label in reports, a letter and a number counted from zero: sessions `s`,
packets `p`, forwarded frames `f`, referrals of redirects `r`, and correlations `c`.
-/

namespace GameGateway

/-- A deployment with what scripts may come back to. -/
structure Scene where
  deployment : Deployment
  /-- The frames that were forwarded to backends, oldest first. -/
  frames : List Bytes := []
  /-- The referral data of redirects, oldest first. -/
  referrals : List Bytes := []
  /-- The backends whose availability is reported. -/
  watched : List String := []

namespace Scene

/-! ## Labels -/

/-- The number of a label, if there is something under it. -/
def number? (letter : Char) (count : Nat) (label : String) : Option Nat :=
  match label.toList with
  | [] => none
  | first :: digits =>
      if first = letter then
        (Decimal.uint32? digits).bind fun n => if n.toNat < count then some n.toNat else none
      else none

/-- The number of a label, or of the one that was given last, which is called `last`. -/
def numberOrLast? (letter : Char) (count : Nat) (label : String) : Option Nat :=
  if label = "last" then if count = 0 then none else some (count - 1)
  else number? letter count label

/-- The session of a label. -/
def session? (scene : Scene) (label : String) : Option SessionId :=
  (numberOrLast? 's' scene.deployment.proxy.plane.sessions.nextNumber label).map SessionId.mk

/-- The packet of a label. -/
def packet? (scene : Scene) (label : String) : Option SentPacket := do
  scene.deployment.packet? (← numberOrLast? 'p' scene.deployment.packets.length label)

/-- The forwarded frame of a label. -/
def frame? (scene : Scene) (label : String) : Option Bytes := do
  scene.frames[← numberOrLast? 'f' scene.frames.length label]?

/-- The referral data of a label. -/
def referral? (scene : Scene) (label : String) : Option Bytes := do
  scene.referrals[← numberOrLast? 'r' scene.referrals.length label]?

/-- The transfer of a label among those that were requested, or the identifier that the
text spells. -/
def correlation? (transfers : List Uuid) (text : String) : Option Uuid :=
  match Uuid.parse? text with
  | some id => some id
  | none => do transfers[← number? 'c' transfers.length text]?

/-- The label of a session. -/
def sessionLabel (id : SessionId) : String := s!"s{id.number}"

/-- The label of a correlation that was made here; any other one as it is. -/
def correlationReport (scene : Scene) (id : Uuid) : Json :=
  match scene.deployment.transfers.findIdx? (· = id) with
  | some n => .ofText s!"c{n}"
  | none => .ofUuid id

/-! ## Errors -/

/-- A session as it is named in sentences. -/
def sessionName (id : SessionId) : String := "<" ++ sessionLabel id ++ ">"

/-- A link as it is named in sentences. -/
def linkName (links : NamedLinks) (id : ConnectionId) : String :=
  "<link:" ++ (links.nameOf? id).getD "" ++ ">"

/-- An error with a session. -/
def sessionError (scene : Scene) (e : SessionError) : Json :=
  errorReport e.kind (e.message sessionName (linkName scene.deployment.links))

/-- An error with a control message. -/
def controlError (scene : Scene) (e : ControlError) : Json :=
  errorReport e.kind (e.message (linkName scene.deployment.links))

/-- An error of the proxy or of a node. -/
def gatewayError (scene : Scene) (e : GatewayError) : Json :=
  errorReport e.kind (e.message sessionName (linkName scene.deployment.links))

/-! ## Events -/

/-- What an event says, with the state in which its session was. -/
def eventMembers (scene : Scene) (state : Option SessionState) :
    (kind : EventKind) → Event kind → List (String × Json)
  | .playerConnected, event => [
      ("session", .ofText (sessionLabel event.session)),
      ("state", .ofOption (fun state => .ofText state.name) state),
      ("address", .ofOption (fun address => .ofText address.text) event.address)]
  | .playerAuthenticated, event => [
      ("session", .ofText (sessionLabel event.session)), ("player_id", .ofUuid event.player),
      ("backend", .ofText event.backend)]
  | .playerDisconnected, event => [
      ("session", .ofText (sessionLabel event.session)),
      ("state", .ofOption (fun state => .ofText state.name) state),
      ("reason", .ofOptionalText event.reason)]
  | .routePreSelect, event => [
      ("context", event.context.report),
      ("override", .ofOptionalText event.decision.suggestion?),
      ("deny", .ofOptionalText event.decision.denial?)]
  | .routePostSelect, event => [
      ("backend", .ofText event.backend), ("reason", .ofText event.reason.name)]
  | .tokenValidated, event => [
      ("player_id", .ofUuid event.player), ("backend", .ofText event.backend),
      ("outcome", nameReport event.outcome), ("reason", .ofOption nameReport event.reason)]
  | .backendStatusChanged, event => [
      ("backend", .ofText event.backend), ("previous", .ofOption nameReport event.previous),
      ("status", nameReport event.status)]
  | .transferCompleted, event => [
      ("correlation_id", scene.correlationReport event.correlation),
      ("player_id", .ofOption .ofUuid event.player), ("status", nameReport event.status),
      ("reason", .ofOption nameReport event.reason), ("latency", .ofOption .ofMillis event.latency)]

/-- How a game server takes redirects. -/
def modeName : Completion → String
  | .done => "ok"
  | .failed => "fail"
  | .panicked => "panic"

/-- The way of taking redirects by its name. -/
def mode? (name : String) : Option Completion :=
  [Completion.done, .failed, .panicked].find? fun mode => modeName mode = name

/-- What an observer told a decision. -/
def spokeReport (observer : String) (word : RoutingDecision) (result : Except RoutingError Unit) :
    Json :=
  let did := match word with
    | .denied reason => "deny:" ++ reason
    | word => "suggest:" ++ word.suggestion?.getD ""
  .record [("observer", .ofText observer), ("did", .ofText did),
    ("result", .ofText (match result with
      | .ok () => "ok"
      | .error e => e.kind))]

/-- What happened, and the scene with the referral that came with it. -/
def noteReport (scene : Scene) : DeploymentNote → Json × Scene
  | .event kind event state =>
      (.record (("event", .ofText kind.name) :: scene.eventMembers state kind event), scene)
  | .redirected backend player proxy referral completion =>
      (.record [("redirect", .ofText backend), ("player_id", .ofUuid player),
        ("proxy", .ofText proxy.text), ("referral", .ofBytes referral),
        ("label", .ofText s!"r{scene.referrals.length}"), ("mode", .ofText (modeName completion))],
        { scene with referrals := scene.referrals ++ [referral] })
  | .called observer => (.record [("observer", .ofText observer)], scene)
  | .spoke observer word result => (spokeReport observer word result, scene)
  | .injected observer handled =>
      (.record [("observer", .ofText observer), ("handled", .bool handled)], scene)

/-! ## The state after a step -/

/-- A packet that was sent, under its number. -/
def packetReport (scene : Scene) (number : Nat) (sent : SentPacket) : Json :=
  .record [("from", .ofText sent.source.name), ("label", .ofText s!"p{number}"),
    ("channel", .ofText sent.channel),
    ("envelope", .ofOption (fun envelope => .record [
      ("type", nameReport envelope.kind), ("sender", .ofText envelope.sender),
      ("issued_at", .ofMillis envelope.issuedAt), ("ttl", .ofMillis envelope.ttl),
      ("payload", payloadReport envelope.kind envelope.payload scene.correlationReport .ofBytes)])
      (Envelope.decode? sent.packet))]

/-- A session. -/
def sessionReport (session : Session) : Json := .array [
  .ofText session.state.name, .ofOption .ofUuid session.player,
  .ofOptionalText session.selectedBackend, .ofOptionalText session.username,
  .ofOptionalText session.clientCert]

/-- The rejects of an endpoint under its name, if there are any. -/
def rejectsReport (name : String) (endpoint : ControlEndpoint) : List (String × Json) :=
  match endpoint.rejects.snapshot with
  | [] => []
  | counts => [(name, .array (counts.map fun (reason, count) =>
      .array [.ofText reason.name, .ofNat count]))]

/-- The result of a step with what happened since the packets were counted last, and
with the state that the step has led to. -/
def report (scene : Scene) (result : Json) (packetsBefore : Nat) : Json × Scene :=
  let (notes, d) := scene.deployment.takeNotes
  let d := d.collect.2
  let (events, scene) := notes.foldl (fun (events, scene) note =>
    let (event, scene) := noteReport scene note
    (event :: events, scene)) (([] : List Json), { scene with deployment := d })
  let fresh := (d.packets.take (d.packets.length - packetsBefore)).reverse
  let plane := d.proxy.plane
  let running := d.names.filter fun name => (d.site name).running
  (.record [("result", result), ("events", .array events.reverse),
    ("sent", .array (fresh.mapIdx fun i sent => scene.packetReport (packetsBefore + i) sent)),
    ("sessions",
      .array (plane.sessions.entries.values.map fun entry => sessionReport entry.session)),
    ("live", .ofNat plane.sessions.size), ("pending", .ofNat plane.pending.size),
    ("rejects", .record (rejectsReport Place.proxy.name plane.endpoint ++
      running.flatMap fun name => rejectsReport name (d.site name).node.plane.endpoint)),
    ("availability", .record (scene.watched.map fun id =>
      (id, .ofText (plane.availability.status d.now id).name)))], scene)

/-- An accepted connection; its frame has a label from now on. -/
def acceptedReport (scene : Scene) (accepted : Accepted) : Json × Scene :=
  let d := scene.deployment
  let forwarded := (ConnectFrame.decode? d.proxy.config.limits accepted.frame).map fun frame =>
    frame.reportWith (.ofOption (fun data => tokenPartsReport d.draws ((Utf8.decode data).getD ""))
      frame.referralData)
  (.record [("session", .ofText (sessionLabel accepted.session)),
    ("backend", accepted.backend.report), ("reason", .ofText accepted.reason.name),
    ("forwarded", forwarded.getD .null), ("frame", .ofText s!"f{scene.frames.length}")],
    { scene with frames := scene.frames ++ [accepted.frame] })

/-- What a node finds of a client. -/
def verdictReport (scene : Scene) : Except GatewayError HandshakeVerdict → Json
  | .ok (.verified token) => .record [("verified", token.report scene.deployment.draws)]
  | .ok (.unverified rejection) => .record [("unverified", rejection.report)]
  | .error (.rejected rejection) => (scene.gatewayError (.rejected rejection)).extend
      [("client_message", .ofText Handshake.rejectedClientMessage)]
  | .error e => scene.gatewayError e

end Scene

end GameGateway
