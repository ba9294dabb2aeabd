import GameGateway.Proofs.Control.Accounting
import GameGateway.Proofs.Control.Passage

/-!
# Every request is answered

A backend that has admitted a transfer request and can read it sends one packet, whatever the
game server makes of the request: the redirect may be done, fail or panic, and it is not tried
for a player who is not there.

What a backend does is written down in a log beside the state, which changes nothing of it.  The
log is one equation (`BackendPlane.handlePacket_logging`); what has to be shown besides is that
the answer gets out.  No bound that lets a request in keeps the answer from going out, for a
packet with a request is longer than an answer (`ControlEndpoint.answer_fits`).
-/

namespace GameGateway

/-! ## A log of what a backend does -/

/-- Something that a backend has done. -/
inductive BackendAct where
  /-- The game server was asked to send a player to a proxy. -/
  | redirect (player : Uuid) (proxy : HostAddress) (referral : Bytes)
  /-- A packet was sent. -/
  | send (channel : String) (packet : Bytes)
deriving DecidableEq

variable {σ : Type}

/-- The same surroundings with a log of the packets that were sent. -/
def Surroundings.logging (env : Surroundings σ) : Surroundings (σ × List BackendAct) where
  now := fun (s, _) => env.now s
  draw := fun (s, acts) =>
    let (value, s) := env.draw s
    (value, s, acts)
  post := fun kind event (s, acts) =>
    let (event, s) := env.post kind event s
    (event, s, acts)
  send := fun channel packet (s, acts) =>
    match env.send channel packet s with
    | (.ok (), s) => (.ok (), s, acts ++ [.send channel packet])
    | (.error e, s) => (.error e, s, acts)

/-- The same game server with a log of the redirects. -/
def GameServer.logging (server : GameServer σ) : GameServer (σ × List BackendAct) where
  isConnected := fun (s, _) player => server.isConnected s player
  redirect := fun player proxy referral (s, acts) =>
    let (completion, s) := server.redirect player proxy referral s
    (completion, s, acts ++ [.redirect player proxy referral])

/-- Every control packet is accepted for sending. -/
def Surroundings.AcceptsControl (env : Surroundings σ) : Prop :=
  ∀ packet s, (env.send controlChannel packet s).1 = .ok ()

theorem Surroundings.AcceptsControl.send_logging {env : Surroundings σ} (h : env.AcceptsControl)
    (packet : Bytes) (s : σ) (acts : List BackendAct) :
    env.logging.send controlChannel packet (s, acts) =
      (.ok (), (env.send controlChannel packet s).2, acts ++ [.send controlChannel packet]) := by
  have haccepted := h packet s
  simp only [logging]
  split
  · rename_i after hsent
    rw [hsent]
  · rename_i e after hsent
    rw [hsent] at haccepted
    cases haccepted

/-! ## The answer goes out -/

namespace ControlEndpoint

variable (env : Surroundings σ) (slot : Slot σ ControlEndpoint) (kind : MessageKind)
  {payload : Bytes} {s : σ}

theorem sender_of_problems {config : ControlConfig} (h : config.problems = []) :
    Text.isBlank config.sender = false ∧ Utf8.size config.sender ≤ Envelope.maxSender := by
  simp only [ControlConfig.problems, List.append_eq_nil_iff, Config.sentenceIf_eq_nil_iff] at h
  obtain ⟨⟨⟨⟨⟨⟨hblank, hlong⟩, -⟩, -⟩, -⟩, -⟩, -⟩ := h
  exact ⟨by simpa using hblank, Nat.not_lt.mp (by simpa using hlong)⟩

/-- A payload that fits is sent in its envelope. -/
theorem send_of_fits (hproblems : (slot.get s).config.problems = [])
    (hfits : payload.length ≤ (slot.get s).config.maxPayload)
    (hsized : payload.length ≤ Bytes.maxSized) :
    (outgoing env slot kind payload s).encode = .ok (outgoing env slot kind payload s).write ∧
    (send env slot kind payload s).2 = (env.send controlChannel
      (outgoing env slot kind payload s).write (env.draw s).2).2 := by
  obtain ⟨hblank, hshort⟩ := sender_of_problems hproblems
  have hencode : (outgoing env slot kind payload s).encode =
      .ok (outgoing env slot kind payload s).write :=
    Envelope.encode_eq_ok_iff.mpr ⟨hblank, hshort, hsized, rfl⟩
  refine ⟨hencode, ?_⟩
  unfold send
  dsimp only
  rw [if_neg (Nat.not_lt.mpr hfits)]
  split
  · rename_i e hfailed
    cases hencode.symm.trans hfailed
  · rename_i packet hpacket
    cases hencode.symm.trans hpacket
    rfl

/-- The log of a message that is sent. -/
theorem send_logging (hproblems : (slot.get s).config.problems = [])
    (hfits : payload.length ≤ (slot.get s).config.maxPayload)
    (hsized : payload.length ≤ Bytes.maxSized) (haccepts : env.AcceptsControl)
    (acts : List BackendAct) :
    (send env.logging (Slot.first.comp slot) kind payload (s, acts)).2 =
      ((send env slot kind payload s).2,
        acts ++ [.send controlChannel (outgoing env slot kind payload s).write]) := by
  have hlogged := send_of_fits env.logging (Slot.first.comp slot) kind (s := (s, acts)) hproblems
    hfits hsized
  have hsent := haccepts.send_logging (outgoing env slot kind payload s).write (env.draw s).2 acts
  rw [hlogged.2, (send_of_fits env slot kind hproblems hfits hsized).2]
  exact congrArg Prod.snd hsent

/-- What is admitted is longer than an answer. -/
theorem answer_fits {endpoint : ControlEndpoint} {now : Millis} {packet : Bytes}
    {envelope : Envelope} (h : (endpoint.accept now packet).1 = some envelope)
    (result : TransferResult) : result.encode.length ≤ endpoint.config.maxPayload := by
  cases hinspect : endpoint.inspect now packet with
  | error reason =>
      rw [accept_of_error hinspect] at h
      cases h
  | ok found =>
      obtain ⟨hshort, -, hdecode, -⟩ := inspect_eq_ok_iff.mp hinspect
      have hlength := Envelope.length_of_decode? hdecode
      have hheader : Envelope.headerSize = 41 := rfl
      rw [TransferResult.length_encode]
      omega

end ControlEndpoint

/-! ## What becomes of a request -/

/-- The game server does not change how the endpoint is configured. -/
def GameServer.KeepsConfig (server : GameServer σ) (slot : Slot σ BackendPlane) : Prop :=
  ∀ player proxy referral s,
    (slot.get (server.redirect player proxy referral s).2).endpoint.config =
      (slot.get s).endpoint.config

namespace BackendPlane

variable {env : Surroundings σ} {slot : Slot σ BackendPlane} {server : GameServer σ}
  {request : TransferRequest} {packet : Bytes} {s : σ}

/-- What a game server is asked for when a request is read, and how the request is answered
then. -/
inductive Settles (server : GameServer σ) (proxy : HostAddress) (request : TransferRequest)
    (s : σ) : List BackendAct → TransferResult → Prop
  /-- The player is not there, and nothing is asked for. -/
  | absent (connected : server.isConnected s request.player = false) :
      Settles server proxy request s [] (.failed request.correlation .playerNotFound)
  | redirected (connected : server.isConnected s request.player = true)
      (outcome : (server.redirect request.player proxy request.referral s).1 = .done) :
      Settles server proxy request s [.redirect request.player proxy request.referral]
        (.ok request.correlation)
  /-- The redirect has failed or panicked. -/
  | broken (connected : server.isConnected s request.player = true)
      (outcome : (server.redirect request.player proxy request.referral s).1 ≠ .done) :
      Settles server proxy request s [.redirect request.player proxy request.referral]
        (.failed request.correlation .internalError)

namespace Settles

variable {proxy : HostAddress} {acts : List BackendAct} {result : TransferResult}

theorem correlation (h : Settles server proxy request s acts result) :
    result.correlation = request.correlation := by
  cases h with
  | absent | redirected | broken => rfl

/-- A transfer has gone well exactly if the redirect was asked for and done. -/
theorem status_iff (h : Settles server proxy request s acts result) :
    result.status = .ok ↔ .redirect request.player proxy request.referral ∈ acts ∧
      (server.redirect request.player proxy request.referral s).1 = .done := by
  cases h with
  | absent connected => simp [TransferResult.failed]
  | redirected connected outcome => simp [TransferResult.ok, outcome]
  | broken connected outcome => simp [TransferResult.failed, outcome]

end Settles

/-- The state in which a packet is read that has been admitted. -/
def admitted (env : Surroundings σ) (slot : Slot σ BackendPlane) (packet : Bytes) (s : σ) : σ :=
  (slot.comp endpointSlot).set ((slot.get s).endpoint.accept (env.now s) packet).2 s

/-- The packet is admitted, and it carries the request. -/
def Reads (env : Surroundings σ) (slot : Slot σ BackendPlane) (packet : Bytes)
    (request : TransferRequest) (s : σ) : Prop :=
  ∃ envelope, ((slot.get s).endpoint.accept (env.now s) packet).1 = some envelope ∧
    envelope.kind = .transferRequest ∧ TransferRequest.decode? envelope.payload = some request

theorem Reads.answer_fits (h : Reads env slot packet request s) (result : TransferResult) :
    result.encode.length ≤ (slot.get s).endpoint.config.maxPayload := by
  obtain ⟨envelope, hadmitted, -⟩ := h
  exact ControlEndpoint.answer_fits hadmitted result

/-- A request that is read is carried out and answered. -/
theorem handlePacket_of_reads (server : GameServer σ) (h : Reads env slot packet request s) :
    handlePacket env slot server packet s = (slot.comp endpointSlot).modify ControlEndpoint.finish
      (answer env slot server request (admitted env slot packet s)) := by
  obtain ⟨envelope, hadmitted, hkind, hdecode⟩ := h
  have hprocess : ∀ s, process env slot server envelope s = answer env slot server request s := by
    intro s
    unfold process
    rw [hkind]
    dsimp only
    rw [hdecode]
    rfl
  unfold handlePacket ControlEndpoint.handle
  dsimp only
  split
  · rename_i hnone
    cases hadmitted.symm.trans hnone
  · rename_i found hfound
    cases hadmitted.symm.trans hfound
    rw [hprocess]
    rfl

theorem transfer_of_absent (slot : Slot σ BackendPlane)
    (h : server.isConnected s request.player = false) :
    transfer slot server request s = (.failed request.correlation .playerNotFound, s) := by
  rw [transfer, h]
  rfl

theorem transfer_of_connected (slot : Slot σ BackendPlane)
    (h : server.isConnected s request.player = true) :
    transfer slot server request s =
      (if (server.redirect request.player (slot.get s).proxyAddress request.referral s).1 = .done
        then .ok request.correlation else .failed request.correlation .internalError,
        (server.redirect request.player (slot.get s).proxyAddress request.referral s).2) := by
  rw [transfer, h]
  rcases server.redirect request.player (slot.get s).proxyAddress request.referral s with
    ⟨completion, after⟩
  cases completion with
  | done | failed | panicked => rfl

/-- The log of a request that is carried out. -/
theorem transfer_logging (slot : Slot σ BackendPlane) (server : GameServer σ)
    (request : TransferRequest) (s : σ) :
    ∃ acts, Settles server (slot.get s).proxyAddress request s acts
        (transfer slot server request s).1 ∧
      ∀ before, transfer (Slot.first.comp slot) server.logging request (s, before) =
        ((transfer slot server request s).1, (transfer slot server request s).2,
          before ++ acts) := by
  cases hconnected : server.isConnected s request.player with
  | false =>
      rw [transfer_of_absent slot hconnected]
      refine ⟨[], .absent hconnected, fun before => ?_⟩
      rw [List.append_nil]
      exact transfer_of_absent (Slot.first.comp slot) hconnected
  | true =>
      rw [transfer_of_connected slot hconnected]
      refine ⟨[.redirect request.player (slot.get s).proxyAddress request.referral], ?_,
        fun before => transfer_of_connected (Slot.first.comp slot) hconnected⟩
      split
      · rename_i hdone
        exact .redirected hconnected hdone
      · rename_i hbroken
        exact .broken hconnected hbroken

theorem config_transfer (hconfig : server.KeepsConfig slot) (request : TransferRequest) (s : σ) :
    (slot.get (transfer slot server request s).2).endpoint.config =
      (slot.get s).endpoint.config := by
  cases hconnected : server.isConnected s request.player with
  | false => rw [transfer_of_absent slot hconnected]
  | true =>
      rw [transfer_of_connected slot hconnected]
      exact hconfig _ _ _ s

theorem get_admitted (env : Surroundings σ) (slot : Slot σ BackendPlane) (packet : Bytes) (s : σ) :
    slot.get (admitted env slot packet s) =
      { slot.get s with endpoint := ((slot.get s).endpoint.accept (env.now s) packet).2 } :=
  slot.get_set _ s

/-- The envelope in which a request is answered. -/
def reply (env : Surroundings σ) (slot : Slot σ BackendPlane) (server : GameServer σ)
    (request : TransferRequest) (s : σ) : Envelope :=
  ControlEndpoint.outgoing env (slot.comp endpointSlot) .transferResult
    (transfer slot server request s).1.encode (transfer slot server request s).2

/-- The log of an answer, which is a packet that decodes. -/
theorem answer_logging (hproblems : (slot.get s).endpoint.config.problems = [])
    (hfits : ∀ result : TransferResult,
      result.encode.length ≤ (slot.get s).endpoint.config.maxPayload)
    (haccepts : env.AcceptsControl) (hconfig : server.KeepsConfig slot)
    (request : TransferRequest) :
    Envelope.decode? (reply env slot server request s).write =
      some (reply env slot server request s) ∧
    ∃ acts, Settles server (slot.get s).proxyAddress request s acts
        (transfer slot server request s).1 ∧
      ∀ before, answer env.logging (Slot.first.comp slot) server.logging request (s, before) =
        (answer env slot server request s, before ++ acts ++
          [.send controlChannel (reply env slot server request s).write]) := by
  obtain ⟨acts, hsettles, hlogged⟩ := transfer_logging slot server request s
  -- The redirect has not changed the bound nor the sender.
  have hsame : ((slot.comp endpointSlot).get (transfer slot server request s).2).config =
      (slot.get s).endpoint.config := config_transfer hconfig request s
  have hsized : (transfer slot server request s).1.encode.length ≤ Bytes.maxSized := by
    rw [TransferResult.length_encode]
    decide
  have hshort := hfits (transfer slot server request s).1
  rw [← hsame] at hproblems hshort
  obtain ⟨hencode, -⟩ := ControlEndpoint.send_of_fits env (slot.comp endpointSlot) .transferResult
    hproblems hshort hsized
  refine ⟨Envelope.decode?_of_encode rfl hencode, acts, hsettles, fun before => ?_⟩
  have hsent := ControlEndpoint.send_logging env (slot.comp endpointSlot) .transferResult hproblems
    hshort hsized haccepts (before ++ acts)
  rw [answer, hlogged]
  exact hsent

end BackendPlane

open BackendPlane (Settles Reads admitted) in
/-- **Every transfer request is answered once.**  A backend whose configuration has no problems
has admitted a packet and can read the request in it, and control packets are accepted for
sending.  Then, whatever the game server does, the backend has asked it for at most one
redirect, with the player and the referral data of the request, and has sent one packet after
that.  The packet decodes to the result of the transfer, which is a success exactly if the
redirect was asked for and done, and tells otherwise whether the player was absent or the
redirect went wrong.  It is never too long for the bound under which the request came in. -/
theorem request_answered_once {env : Surroundings σ} {slot : Slot σ BackendPlane}
    {server : GameServer σ} {packet : Bytes} {request : TransferRequest} {s : σ}
    (hproblems : (slot.get s).endpoint.config.problems = []) (haccepts : env.AcceptsControl)
    (hconfig : server.KeepsConfig slot) (hreads : Reads env slot packet request s) :
    ∃ acts result answer envelope,
      Settles server (slot.get s).proxyAddress request (admitted env slot packet s) acts result ∧
      (∀ before, BackendPlane.handlePacket env.logging (Slot.first.comp slot) server.logging packet
          (s, before) = (BackendPlane.handlePacket env slot server packet s,
            before ++ acts ++ [.send controlChannel answer])) ∧
      Envelope.decode? answer = some envelope ∧ envelope.kind = .transferResult ∧
      TransferResult.decode? envelope.payload = some result ∧
      result.correlation = request.correlation ∧
      (result.status = .ok ↔
        .redirect request.player (slot.get s).proxyAddress request.referral ∈ acts ∧
        (server.redirect request.player (slot.get s).proxyAddress request.referral
          (admitted env slot packet s)).1 = .done) ∧
      envelope.payload.length ≤ (slot.get s).endpoint.config.maxPayload := by
  have hread := BackendPlane.get_admitted env slot packet s
  have hproxy : (slot.get (admitted env slot packet s)).proxyAddress =
      (slot.get s).proxyAddress := by
    rw [hread]
  have hsame : (slot.get (admitted env slot packet s)).endpoint.config =
      (slot.get s).endpoint.config := by
    rw [hread, ControlEndpoint.config_accept]
  have hfits := hreads.answer_fits
  obtain ⟨hdecode, acts, hsettles, hlogged⟩ := BackendPlane.answer_logging
    (hsame ▸ hproblems) (fun result => hsame ▸ hfits result) haccepts hconfig request
  rw [hproxy] at hsettles
  refine ⟨acts, _, _, _, hsettles, fun before => ?_, hdecode, rfl, ?_, hsettles.correlation,
    hsettles.status_iff, hfits _⟩
  · have hreads' : Reads env.logging (Slot.first.comp slot) packet request (s, before) := hreads
    -- The packet is admitted in the same state, whether or not there is a log.
    calc BackendPlane.handlePacket env.logging (Slot.first.comp slot) server.logging packet
          (s, before)
      _ = ((Slot.first.comp slot).comp BackendPlane.endpointSlot).modify ControlEndpoint.finish
            (BackendPlane.answer env.logging (Slot.first.comp slot) server.logging request
              (admitted env slot packet s, before)) :=
          BackendPlane.handlePacket_of_reads server.logging hreads'
      _ = ((slot.comp BackendPlane.endpointSlot).modify ControlEndpoint.finish
            (BackendPlane.answer env slot server request (admitted env slot packet s)), _) := by
          rw [hlogged]
          rfl
      _ = (BackendPlane.handlePacket env slot server packet s, _) := by
          rw [BackendPlane.handlePacket_of_reads server hreads]
  · exact TransferResult.decode?_encode _

/-- A player of the lobby is to go to the arena. -/
def arenaRequest : TransferRequest := ⟨.ofNat 1, .ofNat 2, "arena", [7]⟩

/-- The request as the proxy sends it. -/
def arenaOrder : Envelope where
  kind := .transferRequest
  sender := "proxy"
  issuedAt := 0
  ttl := 10000
  nonce := Alone.fresh
  payload := arenaRequest.write

/-- A lobby with a bound that just lets the request in. -/
def tightLobby : Alone BackendPlane where
  clock := 0
  part := ⟨.new { sender := "lobby", maxPayload := arenaOrder.write.length } .any 0, "lobby",
    ⟨"localhost", 5520⟩⟩

/-- A game server that is slow to send players away, and panics then. -/
def slowServer : GameServer (Alone BackendPlane) where
  isConnected := fun _ _ => true
  redirect := fun _ _ _ s => (.panicked, { s with clock := 5000 })

open BackendPlane (Reads) in
/-- The request is let in, the redirect is tried once, and the answer that it went wrong goes
out. -/
theorem request_answered_despite_panic :
    (Alone.slot.get tightLobby).endpoint.config.problems = [] ∧
      (Alone.env : Surroundings (Alone BackendPlane)).AcceptsControl ∧
      slowServer.KeepsConfig Alone.slot ∧
      Reads Alone.env Alone.slot arenaOrder.write arenaRequest tightLobby ∧
      ∃ answer envelope, (BackendPlane.handlePacket Alone.env.logging (Slot.first.comp Alone.slot)
          slowServer.logging arenaOrder.write (tightLobby, [])).2 =
        [.redirect (.ofNat 2) ⟨"localhost", 5520⟩ [7], .send controlChannel answer] ∧
        Envelope.decode? answer = some envelope ∧ TransferResult.decode? envelope.payload =
          some (.failed (.ofNat 1) .internalError) := by
  have hproblems : (Alone.slot.get tightLobby).endpoint.config.problems = [] := by
    decide +kernel
  have haccepts : (Alone.env : Surroundings (Alone BackendPlane)).AcceptsControl :=
    fun _ _ => rfl
  have hconfig : slowServer.KeepsConfig Alone.slot := fun _ _ _ _ => rfl
  have hreads : Reads Alone.env Alone.slot arenaOrder.write arenaRequest tightLobby :=
    ⟨arenaOrder, by decide +kernel, rfl, by decide +kernel⟩
  refine ⟨hproblems, haccepts, hconfig, hreads, ?_⟩
  obtain ⟨acts, result, answer, envelope, hsettles, hlogged, hdecode, -, hresult, -⟩ :=
    request_answered_once hproblems haccepts hconfig hreads
  cases hsettles with
  | absent connected => cases connected
  | redirected connected outcome => cases outcome
  | broken connected outcome =>
      exact ⟨answer, envelope, congrArg Prod.snd (hlogged []), hdecode, hresult⟩

end GameGateway
