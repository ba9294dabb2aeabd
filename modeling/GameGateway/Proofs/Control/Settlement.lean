import GameGateway.Control.BackendPlane
import GameGateway.Proofs.Control.Passage

/-!
# How a transfer is settled

A transfer request goes out to all backends, and every backend that can read it answers:
the one that has the player with the outcome of the redirect, every other one with a
failure.  The proxy tells them apart only by the order in which their answers come in, and
settles the transfer with the first one.

So the session is still under way in the end, and the completion that names the player
says that the transfer went well, exactly if the backend that has redirected the player is
heard first (`transfer_settled_by_first`).  If another one is heard first, the session plays
on although its player is on the way to another backend (`settled_by_bystander`).
-/

namespace GameGateway

/-! ## The backends -/

/-- A backend, in the state in which a packet finds it.  Redirecting a player is not done by
way of the control channel. -/
structure Host where
  State : Type
  env : Surroundings State
  plane : Slot State BackendPlane
  server : GameServer State
  handed : State → List Bytes
  hands : env.Hands plane handed
  handed_redirect : ∀ player address referral s,
    handed (server.redirect player address referral s).2 = handed s
  state : State

namespace Host

variable (host : Host) (packet : Bytes) (request : TransferRequest)

/-- The backend while it reads the packet. -/
def reading : host.State :=
  (host.plane.comp BackendPlane.endpointSlot).set
    ((host.plane.get host.state).endpoint.accept (host.env.now host.state) packet).2 host.state

/-- The player is connected to the backend, and can be redirected. -/
def Redirects : Prop :=
  host.server.isConnected (host.reading packet) request.player = true ∧
    (host.server.redirect request.player (host.plane.get (host.reading packet)).proxyAddress
      request.referral (host.reading packet)).1 = .done

/-- What becomes of the request at this backend. -/
def outcome : TransferResult :=
  (BackendPlane.transfer host.plane host.server request (host.reading packet)).1

/-- Given the packet, the backend hands over one packet. -/
def Answers (answer : Bytes) : Prop :=
  host.handed (BackendPlane.handlePacket host.env host.plane host.server packet host.state) =
    host.handed host.state ++ [answer]

theorem correlation_outcome : (host.outcome packet request).correlation = request.correlation := by
  unfold outcome BackendPlane.transfer
  split
  · rfl
  · split
    · rfl
    · rfl

theorem status_outcome : (host.outcome packet request).status = .ok ↔
    host.Redirects packet request := by
  unfold outcome BackendPlane.transfer Redirects
  split
  · rename_i habsent
    constructor
    · intro h
      cases h
    · rintro ⟨hpresent, -⟩
      rw [hpresent] at habsent
      cases habsent
  · rename_i hpresent
    have hconnected : host.server.isConnected (host.reading packet) request.player = true := by
      simpa using hpresent
    split
    · rename_i after hredirect
      rw [hredirect]
      exact ⟨fun _ => ⟨hconnected, rfl⟩, fun _ => rfl⟩
    · rename_i result after hfailed hredirect
      constructor
      · intro h
        cases h
      · rintro ⟨-, hdone⟩
        exact (hfailed ((congrArg Prod.fst hredirect).symm.trans hdone)).elim

theorem handed_transfer (s : host.State) :
    host.handed (BackendPlane.transfer host.plane host.server request s).2 = host.handed s := by
  unfold BackendPlane.transfer
  have hredirect := host.handed_redirect request.player (host.plane.get s).proxyAddress
    request.referral s
  split
  · rfl
  · split
    · rename_i after hresult
      rw [hresult] at hredirect
      exact hredirect
    · rename_i result after hfailed hresult
      rw [hresult] at hredirect
      exact hredirect

variable {host packet request}

/-- What a backend hands over when it gets a request carries the outcome. -/
theorem carries_answer {payload answer : Bytes} (hcarries : Carries packet .transferRequest payload)
    (hdecode : TransferRequest.decode? payload = some request)
    (hanswers : host.Answers packet answer) :
    Carries answer .transferResult (host.outcome packet request).encode := by
  obtain ⟨envelope, henvelope, hkind, rfl⟩ := hcarries
  have hread : host.handed (host.reading packet) = host.handed host.state := host.hands.set _ _
  unfold Answers BackendPlane.handlePacket ControlEndpoint.handle at hanswers
  dsimp only at hanswers
  split at hanswers
  · -- A backend that turns the packet away hands nothing over.
    have hnothing := hread.symm.trans hanswers
    simp at hnothing
  · rename_i found hfound
    have hsame := (ControlEndpoint.decode?_of_accept hfound).symm.trans henvelope
    cases hsame
    have hprocessed := (host.hands.set _ _).symm.trans hanswers
    unfold BackendPlane.process at hprocessed
    rw [hkind] at hprocessed
    dsimp only at hprocessed
    rw [hdecode] at hprocessed
    dsimp only at hprocessed
    have hbefore := (host.handed_transfer request (host.reading packet)).trans hread
    rw [← hbefore] at hprocessed
    exact (ControlEndpoint.carries_of_handed (host.hands.comp BackendPlane.endpointSlot)
      hprocessed).1

end Host

/-! ## One request and all its answers -/

/-- A proxy has sent one request for a session under way.  The packet has come to some backends,
exactly one of which has redirected the player, and all of which answer. -/
structure Passage.Broadcast {σ : Type} (env : Surroundings σ) (p : Passage σ) (before after : σ)
    {n : Nat} (hosts : Fin n → Host) (home : Fin n) (packet : Bytes) (answer : Fin n → Bytes) :
    Prop where
  attends : env.Attends p
  hands : env.Hands p.plane p.handed
  wellKept : (p.plane.get before).sessions.WellKept
  underway : ∃ session, (p.plane.get before).sessions.session? p.id = some session ∧
    session.player = some p.request.player ∧ session.state = .transferring
  sent : ProxyPlane.requestTransfer env p.plane p.request before = (.ok (), after)
  handed : p.handed after = p.handed before ++ [packet]
  redirects : ∀ i, (hosts i).Redirects packet p.request ↔ i = home
  answers : ∀ i, (hosts i).Answers packet (answer i)

namespace Passage.Broadcast

variable {σ : Type} {env : Surroundings σ} {p : Passage σ} {before after : σ} {n : Nat}
  {hosts : Fin n → Host} {home : Fin n} {packet : Bytes} {answer : Fin n → Bytes}

theorem answersOf (h : p.Broadcast env before after hosts home packet answer) :
    p.AnswersOf answer fun i => (hosts i).outcome packet p.request := by
  obtain ⟨⟨payload, hcarries, hdecode⟩, -⟩ := of_requestTransfer h.attends h.hands h.sent h.handed
  exact ⟨fun i => Host.carries_answer hcarries hdecode (h.answers i),
    fun i => (hosts i).correlation_outcome packet p.request⟩

theorem status_outcome (h : p.Broadcast env before after hosts home packet answer) (i : Fin n) :
    ((hosts i).outcome packet p.request).status = if i = home then .ok else .failed := by
  have hstatus := ((hosts i).status_outcome packet p.request).trans (h.redirects i)
  split
  · exact hstatus.mpr ‹_›
  · rename_i hother
    cases hfailed : ((hosts i).outcome packet p.request).status with
    | failed => rfl
    | ok => exact absurd (hstatus.mp hfailed) hother

end Passage.Broadcast

/-- **The first answer settles a transfer.**  The answers of backends to one request come in in
any order.  In the end the session is still under way if the backend that has redirected the
player was heard first, and plays if it was not.  Exactly one completion names the player, and
says what the first answer says. -/
theorem transfer_settled_by_first {σ : Type} {env : Surroundings σ} {p : Passage σ}
    {before after final : σ} {n : Nat} {hosts : Fin n → Host} {home : Fin n} {packet : Bytes}
    {answer : Fin n → Bytes} (h : p.Broadcast env before after hosts home packet answer)
    {first : Fin n} {rest : List (Fin n)}
    (hdelivered : p.Deliveries env after ((first :: rest).map answer) final) :
    ((p.plane.get final).sessions.session? p.id).map Session.state =
        some (if first = home then .transferring else .playing) ∧
      (∃ latency, p.completed final = p.completed before ++
        p.completion ((hosts first).outcome packet p.request) (some p.request.player)
            (some latency) ::
          rest.map fun i => p.completion ((hosts i).outcome packet p.request) none none) ∧
      ∀ i, ((hosts i).outcome packet p.request).status = if i = home then .ok else .failed := by
  obtain ⟨session, hsession, hplayer, hunderway⟩ := h.underway
  have hcurrent : (p.plane.get before).sessions.findByPlayer p.request.player = some p.id :=
    h.wellKept.findByPlayer_eq_some_iff.mpr
      ⟨session, hsession, hplayer, by rw [hunderway]; exact nofun⟩
  obtain ⟨-, hstanding⟩ := Passage.of_requestTransfer h.attends h.hands h.sent h.handed
  obtain ⟨latency, hfinal⟩ := hdelivered.settled h.attends h.answersOf
    (congrArg Passage.Standing.pending hstanding) rfl
    ((congrArg Passage.Standing.current hstanding).trans hcurrent)
  rw [hstanding] at hfinal
  refine ⟨?_, ⟨latency, congrArg Passage.Standing.completed hfinal⟩, h.status_outcome⟩
  have hsettled : (p.plane.get final).sessions.session? p.id =
      if ((hosts first).outcome packet p.request).status = .failed then
        ((p.plane.get before).sessions.session? p.id).map Session.restore
      else (p.plane.get before).sessions.session? p.id :=
    congrArg Passage.Standing.session hfinal
  rw [hsettled, h.status_outcome, hsession]
  by_cases hfirst : first = home
  · rw [if_pos hfirst, if_pos hfirst, if_neg nofun, Option.map_some, hunderway]
  · rw [if_neg hfirst, if_neg hfirst, if_pos rfl, Option.map_some, Option.map_some,
      Session.state_restore, if_pos hunderway]

/-! ## Two backends -/

/-- A part with a clock, and the records of what it hands over and announces. -/
structure Recorder (α : Type) where
  clock : Millis := 0
  part : α
  handed : List Bytes := []
  completed : List TransferCompleted := []

namespace Recorder

variable {α : Type}

/-- The part. -/
def slot : Slot (Recorder α) α where
  get := part
  set := fun part s => { s with part := part }
  get_set := fun _ _ => rfl
  set_get := fun _ => rfl
  set_set := fun _ _ _ => rfl

/-- Surroundings that keep the records, and do nothing else. -/
def env : Surroundings (Recorder α) where
  now := clock
  draw := fun s => (Alone.fresh, s)
  post := fun kind event s =>
    (event, match kind, event with
      | .transferCompleted, event => { s with completed := s.completed ++ [event] }
      | _, _ => s)
  send := fun _ packet s => (.ok (), { s with handed := s.handed ++ [packet] })

theorem hands : (env : Surroundings (Recorder α)).Hands slot handed where
  set _ _ := rfl
  draw _ := rfl
  send _ _ := rfl

end Recorder

namespace Passage

/-- A player of the lobby is to go to the arena. -/
def toArena : Passage (Recorder ProxyPlane) where
  plane := Recorder.slot
  id := ⟨0⟩
  request := ⟨.ofNat 1, .ofNat 2, "arena", []⟩
  handed := Recorder.handed
  completed := Recorder.completed

theorem attends_toArena : Recorder.env.Attends toArena where
  set _ _ := rfl
  draw _ := rfl
  send _ _ := rfl
  post _ _ _ := rfl

/-- The player's session is under way. -/
def departure : Recorder ProxyPlane where
  part :=
    { endpoint := .new {} .any 0
      sessions := ({} : SessionRegistry).openFor { state := .transferring } toArena.request.player }

/-- The request is sent. -/
def requested : Recorder ProxyPlane :=
  (ProxyPlane.requestTransfer Recorder.env Recorder.slot toArena.request departure).2

/-- The packet that the request travels in. -/
def requestPacket : Bytes := requested.handed.headD []

/-- A backend that redirects every player, if players are connected to it at all. -/
def backend (name : String) (connected : Bool) : Host where
  State := Recorder BackendPlane
  env := Recorder.env
  plane := Recorder.slot
  server :=
    { isConnected := fun _ _ => connected
      redirect := fun _ _ _ s => (.done, s) }
  handed := Recorder.handed
  hands := Recorder.hands
  handed_redirect := fun _ _ _ _ => rfl
  state := { part := ⟨.new { sender := name } .any 0, name, ⟨"proxy", 25565⟩⟩ }

/-- The lobby, which has the player, and the arena, which does not. -/
def fleet (i : Fin 2) : Host :=
  backend (if i = 0 then "lobby" else "arena") (decide (i = 0))

/-- What the backends answer. -/
def fleetAnswer (i : Fin 2) : Bytes :=
  ((fleet i).handed (BackendPlane.handlePacket (fleet i).env (fleet i).plane (fleet i).server
    requestPacket (fleet i).state)).headD []

/-- The proxy after an answer. -/
def heard (i : Fin 2) (s : Recorder ProxyPlane) : Recorder ProxyPlane :=
  ProxyPlane.handlePacket Recorder.env toArena.plane (fleetAnswer i) s

theorem broadcast_toArena :
    toArena.Broadcast Recorder.env departure requested fleet 0 requestPacket fleetAnswer where
  attends := attends_toArena
  hands := Recorder.hands
  wellKept := (SessionRegistry.wellKept_empty.openFor _ _).1
  underway := ⟨_, rfl, rfl, rfl⟩
  sent := Prod.ext (by decide +kernel) rfl
  handed := by decide +kernel
  redirects i := ⟨fun h => of_decide_eq_true h.1, fun h => ⟨decide_eq_true h, rfl⟩⟩
  answers := by
    unfold Host.Answers
    decide +kernel

/-- The proxy admits an answer. -/
def Admits (s : Recorder ProxyPlane) (i : Fin 2) : Prop :=
  ((toArena.plane.get s).endpoint.accept (Recorder.env.now s) (fleetAnswer i)).1.isSome

instance (s : Recorder ProxyPlane) (i : Fin 2) : Decidable (Admits s i) :=
  inferInstanceAs (Decidable (_ = true))

/-- The backends are heard one after the other. -/
theorem deliveries_heard {i j : Fin 2} (hfirst : Admits requested i)
    (hsecond : Admits (heard i requested) j) :
    toArena.Deliveries Recorder.env requested ([i, j].map fleetAnswer)
      (heard j (heard i requested)) := by
  have hend : toArena.Deliveries Recorder.env (heard j (heard i requested)) []
      (heard j (heard i requested)) := .done _
  have hlast : toArena.Deliveries Recorder.env (heard i requested) [fleetAnswer j]
      (heard j (heard i requested)) := .deliver hsecond hend
  exact .deliver hfirst hlast

end Passage

open Passage (toArena departure requested requestPacket fleet fleetAnswer heard)

/-- If the lobby is heard first, the session is still under way after both answers, and the
completion that names the player says what the lobby says. -/
theorem settled_by_lobby :
    toArena.Broadcast Recorder.env departure requested fleet 0 requestPacket fleetAnswer ∧
      toArena.Deliveries Recorder.env requested ([0, 1].map fleetAnswer)
        (heard 1 (heard 0 requested)) ∧
      ((heard 1 (heard 0 requested)).part.sessions.session? ⟨0⟩).map Session.state =
        some .transferring ∧
      ∃ latency, toArena.completed (heard 1 (heard 0 requested)) = toArena.completed departure ++
        [toArena.completion ((fleet 0).outcome requestPacket toArena.request)
            (some toArena.request.player) (some latency),
          toArena.completion ((fleet 1).outcome requestPacket toArena.request) none none] := by
  have hdelivered : toArena.Deliveries Recorder.env requested ([0, 1].map fleetAnswer)
      (heard 1 (heard 0 requested)) :=
    Passage.deliveries_heard (by decide +kernel) (by decide +kernel)
  obtain ⟨hstate, hcompleted, -⟩ := transfer_settled_by_first Passage.broadcast_toArena hdelivered
  exact ⟨Passage.broadcast_toArena, hdelivered, hstate, hcompleted⟩

/-- If the arena is heard first, the session plays on, and the completion that names the player
says that the transfer failed. -/
theorem settled_by_bystander :
    ¬ ∀ (σ : Type) (env : Surroundings σ) (p : Passage σ) (before after final : σ) (n : Nat)
        (hosts : Fin n → Host) (home : Fin n) (packet : Bytes) (answer : Fin n → Bytes)
        (order : List (Fin n)),
      p.Broadcast env before after hosts home packet answer → order.Perm (List.finRange n) →
      p.Deliveries env after (order.map answer) final →
      ((p.plane.get final).sessions.session? p.id).map Session.state = some .transferring ∧
        ∀ event ∈ p.completed final, event ∉ p.completed before → event.player.isSome →
          event.status = .ok := by
  intro h
  have hdelivered : toArena.Deliveries Recorder.env requested ([1, 0].map fleetAnswer)
      (heard 0 (heard 1 requested)) :=
    Passage.deliveries_heard (by decide +kernel) (by decide +kernel)
  have horder : [(1 : Fin 2), 0].Perm (List.finRange 2) := by decide
  obtain ⟨hunderway, -⟩ := h _ _ toArena _ _ _ 2 _ _ _ _ _ Passage.broadcast_toArena horder
    hdelivered
  have hplays : ((heard 0 (heard 1 requested)).part.sessions.session? ⟨0⟩).map Session.state =
      some .playing := by
    decide +kernel
  have hcontra := hplays.symm.trans hunderway
  cases hcontra

end GameGateway
