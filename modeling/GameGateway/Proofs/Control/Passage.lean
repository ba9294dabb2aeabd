import GameGateway.Proofs.Control.Sending
import GameGateway.Proofs.Proxy.Ledger
import GameGateway.Proofs.Wire.Notice

/-!
# One transfer as the proxy sees it

A proxy that has asked for a transfer keeps the request on a list until there is an answer.
The first answer that comes in takes it off the list and restores the session if it says that
the transfer failed; any later answer to the same request finds nothing on the list, and
leaves nothing behind but a completion that names no player.

Of the state of the proxy only four things matter here, the `Passage.Standing` of the
transfer, and each step is described by what it does to them: first sending the request, then
one answer, then all answers that come in one after the other (`Passage.Deliveries`), whatever
else happens to the proxy in between.
-/

namespace GameGateway

/-! ## Packets on the way -/

/-- The packet is an envelope of the kind around the payload. -/
def Carries (packet : Bytes) (kind : MessageKind) (payload : Bytes) : Prop :=
  ∃ envelope, Envelope.decode? packet = some envelope ∧ envelope.kind = kind ∧
    envelope.payload = payload

/-- A record of the control packets that a part hands over to be sent: it is not kept by the
part, nor by what is drawn. -/
structure Surroundings.Hands {σ α : Type} (env : Surroundings σ) (slot : Slot σ α)
    (handed : σ → List Bytes) : Prop where
  set : ∀ a s, handed (slot.set a s) = handed s
  draw : ∀ s, handed (env.draw s).2 = handed s
  send : ∀ packet s, handed (env.send controlChannel packet s).2 = handed s ++ [packet]

theorem Surroundings.Hands.comp {σ α β : Type} {env : Surroundings σ} {slot : Slot σ α}
    {handed : σ → List Bytes} (h : env.Hands slot handed) (inner : Slot α β) :
    env.Hands (slot.comp inner) handed :=
  ⟨fun b s => h.set (inner.set b (slot.get s)) s, h.draw, h.send⟩

namespace ControlEndpoint

/-- An admitted packet decodes. -/
theorem decode?_of_accept {endpoint : ControlEndpoint} {now : Millis} {packet : Bytes}
    {envelope : Envelope} (h : (endpoint.accept now packet).1 = some envelope) :
    Envelope.decode? packet = some envelope := by
  cases hinspect : endpoint.inspect now packet with
  | error reason =>
      rw [accept_of_error hinspect] at h
      cases h
  | ok found =>
      rw [accept_fst_of_ok hinspect] at h
      split at h
      · cases h
        exact (inspect_eq_ok_iff.mp hinspect).2.2.1
      · cases h

/-- The one packet that sending a message hands over carries the message. -/
theorem carries_of_handed {σ : Type} {env : Surroundings σ} {slot : Slot σ ControlEndpoint}
    {handed : σ → List Bytes} (h : env.Hands slot handed) {kind : MessageKind} {payload : Bytes}
    {s : σ} {packet : Bytes}
    (hpacket : handed (send env slot kind payload s).2 = handed s ++ [packet]) :
    Carries packet kind payload ∧ payload.length ≤ Bytes.maxSized := by
  -- Only the last branch hands a packet over.
  have hnothing : ¬ handed s = handed s ++ [packet] := by simp
  unfold send at hpacket
  dsimp only at hpacket
  split at hpacket
  · exact absurd ((h.set _ s).symm.trans hpacket) hnothing
  · split at hpacket
    · exact absurd ((h.draw s).symm.trans hpacket) hnothing
    · rename_i sent hencode
      have hsent : handed s ++ [sent] = handed s ++ [packet] := by
        rw [← hpacket]
        dsimp only
        rw [h.send, h.draw]
      have hsame : sent = packet := List.singleton_inj.mp (List.append_cancel_left hsent)
      subst hsame
      obtain ⟨-, -, hfits, -⟩ := Envelope.encode_eq_ok_iff.mp hencode
      exact ⟨⟨_, Envelope.decode?_of_encode rfl hencode, rfl, rfl⟩, hfits⟩

end ControlEndpoint

/-! ## Transfers at the proxy -/

/-- A transfer that a proxy asks for: the session, the request, and where to find what becomes
of it. -/
structure Passage (σ : Type) where
  plane : Slot σ ProxyPlane
  id : SessionId
  request : TransferRequest
  /-- The control packets that the proxy has handed over. -/
  handed : σ → List Bytes
  /-- The completions of this transfer that the proxy has announced. -/
  completed : σ → List TransferCompleted

namespace Passage

/-- What there is to know of a transfer. -/
structure Standing where
  session : Option Session
  /-- The session that is found for the player. -/
  current : Option SessionId
  pending : Option PendingTransfer
  completed : List TransferCompleted

/-- The standing after completions were announced. -/
def Standing.announcing (standing : Standing) (events : List TransferCompleted) : Standing :=
  { standing with completed := standing.completed ++ events }

theorem Standing.announcing_nil (standing : Standing) : standing.announcing [] = standing := by
  rw [announcing, List.append_nil]

theorem Standing.announcing_append (standing : Standing) (events more : List TransferCompleted) :
    standing.announcing (events ++ more) = (standing.announcing events).announcing more := by
  rw [announcing, announcing, announcing, List.append_assoc]

/-- The standing after the transfer was settled with an answer. -/
def Standing.settled (standing : Standing) (result : TransferResult) : Standing :=
  { standing with
    session := if result.status = .failed then standing.session.map Session.restore
      else standing.session
    pending := none }

variable {σ : Type}

/-- What there is to know of a transfer in a state. -/
def standing (p : Passage σ) (s : σ) : Standing where
  session := (p.plane.get s).sessions.session? p.id
  current := (p.plane.get s).sessions.findByPlayer p.request.player
  pending := (p.plane.get s).pending.get? p.request.correlation
  completed := p.completed s

/-- The completion that the answer of a backend is announced by. -/
def completion (p : Passage σ) (result : TransferResult) (player : Option Uuid)
    (latency : Option Millis) : TransferCompleted :=
  ⟨p.request.correlation, player, result.status, result.reason, latency⟩

end Passage

/-- The surroundings of a transfer: what is drawn and sent does not touch it, and a completion
is recorded when it is announced. -/
structure Surroundings.Attends {σ : Type} (env : Surroundings σ) (p : Passage σ) : Prop where
  set : ∀ plane s, p.completed (p.plane.set plane s) = p.completed s
  draw : ∀ s, p.standing (env.draw s).2 = p.standing s
  send : ∀ packet s, p.standing (env.send controlChannel packet s).2 = p.standing s
  post : ∀ event s, event.correlation = p.request.correlation →
    p.standing (env.post .transferCompleted event s).2 = (p.standing s).announcing [event]

namespace Passage

section Steps

variable {σ : Type} {env : Surroundings σ} {p : Passage σ}

theorem standing_set (h : env.Attends p) (plane : ProxyPlane) (s : σ) :
    p.standing (p.plane.set plane s) =
      { session := plane.sessions.session? p.id
        current := plane.sessions.findByPlayer p.request.player
        pending := plane.pending.get? p.request.correlation
        completed := p.completed s } := by
  rw [standing, p.plane.get_set, h.set]

theorem standing_setEndpoint (h : env.Attends p) (endpoint : ControlEndpoint) (s : σ) :
    p.standing ((p.plane.comp ProxyPlane.endpointSlot).set endpoint s) = p.standing s :=
  standing_set h _ s

theorem standing_sendMessage (h : env.Attends p) (kind : MessageKind) (payload : Bytes) (s : σ) :
    p.standing (ControlEndpoint.send env (p.plane.comp ProxyPlane.endpointSlot) kind payload s).2 =
      p.standing s := by
  unfold ControlEndpoint.send
  dsimp only
  split
  · exact standing_setEndpoint h _ s
  · split
    · exact h.draw s
    · exact (h.send _ _).trans (h.draw s)

/-- A request that was sent went out in one packet, and the transfer is pending. -/
theorem of_requestTransfer (h : env.Attends p) (hhands : env.Hands p.plane p.handed) {s s' : σ}
    {packet : Bytes} (hsent : ProxyPlane.requestTransfer env p.plane p.request s = (.ok (), s'))
    (hpacket : p.handed s' = p.handed s ++ [packet]) :
    (∃ payload, Carries packet .transferRequest payload ∧
        TransferRequest.decode? payload = some p.request) ∧
      p.standing s' =
        { p.standing s with pending := some ⟨env.now s, p.request.player⟩ } := by
  unfold ProxyPlane.requestTransfer at hsent
  cases hencode : p.request.encode with
  | error e =>
      rw [hencode] at hsent
      cases hsent
  | ok payload =>
      rw [hencode] at hsent
      dsimp only at hsent
      generalize hasking : p.plane.modify (fun plane => { plane with
        pending := plane.pending.insert p.request.correlation
          ⟨env.now s, p.request.player⟩ }) s = asking at hsent
      have hstanding : p.standing asking =
          { p.standing s with pending := some ⟨env.now s, p.request.player⟩ } := by
        rw [← hasking, Slot.modify, standing_set h]
        dsimp only
        rw [Table.get?_insert, if_pos rfl]
        rfl
      have hkept : p.handed asking = p.handed s := by
        rw [← hasking]
        exact hhands.set _ _
      split at hsent
      · rename_i after hsend
        cases hsent
        have hmessage := standing_sendMessage h .transferRequest payload asking
        have hhanded : p.handed (ControlEndpoint.send env
            (p.plane.comp ProxyPlane.endpointSlot) .transferRequest payload asking).2 =
              p.handed asking ++ [packet] := by
          rw [hsend, hkept]
          exact hpacket
        obtain ⟨hcarries, hfits⟩ :=
          ControlEndpoint.carries_of_handed (hhands.comp ProxyPlane.endpointSlot) hhanded
        rw [hsend, hstanding] at hmessage
        exact ⟨⟨payload, hcarries, TransferRequest.decode?_of_encode hencode hfits⟩, hmessage⟩
      · cases hsent

/-! ## Answers -/

/-- The first answer takes the request off the list, and restores the session if it says that
the transfer failed. -/
theorem standing_settle_of_pending (h : env.Attends p) {result : TransferResult}
    (hcorrelation : result.correlation = p.request.correlation) {s : σ}
    {transfer : PendingTransfer} (hpending : (p.standing s).pending = some transfer)
    (hplayer : transfer.player = p.request.player) (hcurrent : (p.standing s).current = some p.id) :
    p.standing (p.plane.modify (fun plane => plane.settle result) s) =
      (p.standing s).settled result := by
  have hfound : (p.plane.get s).pending.get? result.correlation = some transfer := by
    rw [hcorrelation]
    exact hpending
  have hsearch : (p.plane.get s).sessions.findByPlayer transfer.player = some p.id := by
    rw [hplayer]
    exact hcurrent
  have halive : ∀ session : Session,
      session.restore.state = .disconnected ↔ session.state = .disconnected := by
    intro session
    rw [session.state_restore]
    split
    · rename_i hunderway
      rw [hunderway]
      exact ⟨nofun, nofun⟩
    · rfl
  rw [Slot.modify, standing_set h]
  unfold ProxyPlane.settle Standing.settled
  dsimp only
  rw [hfound]
  dsimp only
  split
  · unfold ProxyPlane.restore
    dsimp only
    rw [hsearch]
    dsimp only
    rw [SessionRegistry.session?_update, if_pos rfl, SessionRegistry.findByPlayer_update halive,
      hcorrelation, Table.get?_erase, if_pos rfl]
    rfl
  · dsimp only
    rw [hcorrelation, Table.get?_erase, if_pos rfl]
    rfl

/-- An answer to a request that is not pending changes nothing. -/
theorem standing_settle_of_settled (h : env.Attends p) {result : TransferResult}
    (hcorrelation : result.correlation = p.request.correlation) {s : σ}
    (hpending : (p.standing s).pending = none) :
    p.standing (p.plane.modify (fun plane => plane.settle result) s) = p.standing s := by
  have hfound : (p.plane.get s).pending.get? result.correlation = none := by
    rw [hcorrelation]
    exact hpending
  rw [Slot.modify, standing_set h]
  unfold ProxyPlane.settle
  dsimp only
  rw [hfound]
  dsimp only
  rw [hcorrelation, Table.get?_erase, if_pos rfl, ← hpending]
  rfl

/-- What an answer does is to settle the transfer and to announce a completion. -/
theorem standing_onResult (h : env.Attends p) {result : TransferResult}
    (hcorrelation : result.correlation = p.request.correlation) (s : σ) :
    ∃ latency : PendingTransfer → Millis,
      p.standing (ProxyPlane.onResult env p.plane result s) =
        (p.standing (p.plane.modify (fun plane => plane.settle result) s)).announcing
          [p.completion result ((p.standing s).pending.map PendingTransfer.player)
            ((p.standing s).pending.map latency)] := by
  refine ⟨fun pending => max 0 (env.now s - pending.startedAt), ?_⟩
  unfold ProxyPlane.onResult
  dsimp only
  rw [h.post _ _ hcorrelation, hcorrelation]
  rfl

/-- An admitted answer is read as what it is. -/
theorem standing_handlePacket (h : env.Attends p) {packet : Bytes} {result : TransferResult}
    {s : σ} (hadmitted : ((p.plane.get s).endpoint.accept (env.now s) packet).1.isSome)
    (hcarries : Carries packet .transferResult result.encode) :
    ∃ reading, p.standing reading = p.standing s ∧
      p.standing (ProxyPlane.handlePacket env p.plane packet s) =
        p.standing (ProxyPlane.onResult env p.plane result reading) := by
  obtain ⟨envelope, hdecode, hkind, hpayload⟩ := hcarries
  obtain ⟨found, hfound⟩ := Option.isSome_iff_exists.mp hadmitted
  have hsame := (ControlEndpoint.decode?_of_accept hfound).symm.trans hdecode
  cases hsame
  refine ⟨(p.plane.comp ProxyPlane.endpointSlot).set
    ((p.plane.get s).endpoint.accept (env.now s) packet).2 s, standing_setEndpoint h _ s, ?_⟩
  have hread : ((p.plane.comp ProxyPlane.endpointSlot).get s).accept (env.now s) packet =
      (some envelope, ((p.plane.get s).endpoint.accept (env.now s) packet).2) :=
    Prod.ext hfound rfl
  have hresult : TransferResult.decode? envelope.payload = some result := by
    rw [hpayload]
    exact TransferResult.decode?_encode result
  unfold ProxyPlane.handlePacket ControlEndpoint.handle
  rw [hread]
  dsimp only
  rw [ProxyPlane.process_result hkind hresult]
  exact standing_setEndpoint h _ _

/-- What the first answer does. -/
theorem standing_firstAnswer (h : env.Attends p) {packet : Bytes} {result : TransferResult}
    {s : σ} (hadmitted : ((p.plane.get s).endpoint.accept (env.now s) packet).1.isSome)
    (hcarries : Carries packet .transferResult result.encode)
    (hcorrelation : result.correlation = p.request.correlation) {transfer : PendingTransfer}
    (hpending : (p.standing s).pending = some transfer)
    (hplayer : transfer.player = p.request.player) (hcurrent : (p.standing s).current = some p.id) :
    ∃ latency, p.standing (ProxyPlane.handlePacket env p.plane packet s) =
      ((p.standing s).settled result).announcing
        [p.completion result (some p.request.player) (some latency)] := by
  obtain ⟨reading, hsame, hhandled⟩ := standing_handlePacket h hadmitted hcarries
  obtain ⟨latency, hresult⟩ := standing_onResult h hcorrelation reading
  rw [← hsame] at hpending hcurrent
  refine ⟨latency transfer, ?_⟩
  rw [hhandled, hresult, standing_settle_of_pending h hcorrelation hpending hplayer hcurrent,
    hpending, hsame, Option.map_some, Option.map_some, hplayer]

/-- What every later answer does. -/
theorem standing_laterAnswer (h : env.Attends p) {packet : Bytes} {result : TransferResult}
    {s : σ} (hadmitted : ((p.plane.get s).endpoint.accept (env.now s) packet).1.isSome)
    (hcarries : Carries packet .transferResult result.encode)
    (hcorrelation : result.correlation = p.request.correlation)
    (hpending : (p.standing s).pending = none) :
    p.standing (ProxyPlane.handlePacket env p.plane packet s) =
      (p.standing s).announcing [p.completion result none none] := by
  obtain ⟨reading, hsame, hhandled⟩ := standing_handlePacket h hadmitted hcarries
  obtain ⟨latency, hresult⟩ := standing_onResult h hcorrelation reading
  rw [← hsame] at hpending
  rw [hhandled, hresult, standing_settle_of_settled h hcorrelation hpending, hpending, hsame,
    Option.map_none, Option.map_none]

/-! ## All answers, one after the other -/

/-- Packets come in at the proxy in the given order and are admitted.  In between anything may
happen that leaves the transfer alone. -/
inductive Deliveries (env : Surroundings σ) (p : Passage σ) : σ → List Bytes → σ → Prop
  | done (s : σ) : Deliveries env p s [] s
  | pause {s s' s'' : σ} {packets : List Bytes} (same : p.standing s' = p.standing s)
      (later : Deliveries env p s' packets s'') : Deliveries env p s packets s''
  | deliver {s s' : σ} {packet : Bytes} {packets : List Bytes}
      (admitted : ((p.plane.get s).endpoint.accept (env.now s) packet).1.isSome)
      (later : Deliveries env p (ProxyPlane.handlePacket env p.plane packet s) packets s') :
      Deliveries env p s (packet :: packets) s'

/-- The answers of backends to one request, in the packets that carry them. -/
structure AnswersOf (p : Passage σ) {ι : Type} (answer : ι → Bytes) (outcome : ι → TransferResult) :
    Prop where
  carries : ∀ i, Carries (answer i) .transferResult (outcome i).encode
  correlation : ∀ i, (outcome i).correlation = p.request.correlation

variable {ι : Type} {answer : ι → Bytes} {outcome : ι → TransferResult}

/-- Once a transfer is settled, answers to its request leave only their completions behind. -/
theorem Deliveries.afterwards (h : env.Attends p) (hanswers : AnswersOf p answer outcome)
    {order : List ι} {s s' : σ} (hdelivered : Deliveries env p s (order.map answer) s')
    (hpending : (p.standing s).pending = none) :
    p.standing s' = (p.standing s).announcing
      (order.map fun i => p.completion (outcome i) none none) := by
  -- By induction on the deliveries; what carries it is that the request is not pending.
  generalize hpackets : order.map answer = packets at hdelivered
  induction hdelivered generalizing order with
  | done s =>
      rw [List.map_eq_nil_iff.mp hpackets, List.map_nil, Standing.announcing_nil]
  | pause same later ih =>
      rw [← same] at hpending
      rw [ih hpending hpackets, same]
  | deliver admitted later ih =>
      obtain ⟨i, rest, rfl, rfl, rfl⟩ := List.map_eq_cons_iff.mp hpackets
      have hstep := standing_laterAnswer h admitted (hanswers.carries i) (hanswers.correlation i)
        hpending
      have hpending' := (congrArg Standing.pending hstep).trans hpending
      rw [ih hpending' rfl, hstep, ← Standing.announcing_append]
      rfl

/-- The first answer settles the transfer. -/
theorem Deliveries.settled (h : env.Attends p) (hanswers : AnswersOf p answer outcome)
    {first : ι} {rest : List ι} {s s' : σ}
    (hdelivered : Deliveries env p s ((first :: rest).map answer) s')
    {transfer : PendingTransfer} (hpending : (p.standing s).pending = some transfer)
    (hplayer : transfer.player = p.request.player) (hcurrent : (p.standing s).current = some p.id) :
    ∃ latency, p.standing s' = ((p.standing s).settled (outcome first)).announcing
      (p.completion (outcome first) (some p.request.player) (some latency) ::
        rest.map fun i => p.completion (outcome i) none none) := by
  -- The induction is only about the pauses before the first answer.
  generalize hpackets : (first :: rest).map answer = packets at hdelivered
  induction hdelivered with
  | done s => cases hpackets
  | pause same later ih =>
      rw [← same] at hpending hcurrent ⊢
      exact ih hpending hcurrent hpackets
  | deliver admitted later ih =>
      cases hpackets
      obtain ⟨latency, hstep⟩ := standing_firstAnswer h admitted (hanswers.carries first)
        (hanswers.correlation first) hpending hplayer hcurrent
      refine ⟨latency, ?_⟩
      rw [later.afterwards h hanswers (congrArg Standing.pending hstep), hstep,
        ← Standing.announcing_append]
      rfl

end Steps

end Passage

end GameGateway
