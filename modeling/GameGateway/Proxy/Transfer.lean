import GameGateway.Proxy.Basic

/-!
# Transfers

To send a player to another backend the proxy chooses the backend, marks the session
as under way, and asks the player's backend to send the player back with a transfer
token.  If the request cannot be sent, the session plays on.
-/

namespace GameGateway.Proxy

variable {σ : Type}

/-- Takes a session that is under way back to playing. -/
def restore (slot : Slot σ Proxy) (id : SessionId) (s : σ) : σ :=
  slot.modify (fun proxy => proxy.updateSession id Session.restore) s

/-- Asks for the transfer of a session that has been marked as under way. -/
def sendTransfer (env : Surroundings σ) (slot : Slot σ Proxy) (id : SessionId) (player : Uuid)
    (target : String) (s : σ) : Except GatewayError Uuid × σ :=
  let proxy := slot.get s
  match TransferToken.issue proxy.secrets.current proxy.config.security.transferTokenTtl (env.now s)
      player target with
  | .error e => (.error (.token e), restore slot id s)
  | .ok token =>
      let (correlation, s) := env.draw s
      match ProxyPlane.requestTransfer env (slot.comp planeSlot)
          ⟨⟨correlation⟩, player, target, Utf8.encode token⟩ s with
      | (.error e, s) => (.error (.control e), restore slot id s)
      | (.ok (), s) => (.ok ⟨correlation⟩, s)

/-- Sends the player of a session to a backend, or to another one if routing decides
so; the answer is what the request is known by. -/
def requestTransfer (env : Surroundings σ) (slot : Slot σ Proxy) (id : SessionId) (backend : String)
    (s : σ) : Except GatewayError Uuid × σ :=
  match (slot.get s).session? id with
  | none => (.error (.session (.notFound id)), s)
  | some session =>
      match session.player with
      | none => (.error (.unidentified id), s)
      | some player =>
          match selectBackend env slot (.forTransfer player backend) false s with
          | (.error e, s) => (.error (.routing e), s)
          | (.ok selection, s) =>
              -- The choice posts events, and their observers may have changed the session.
              let session := ((slot.get s).session? id).getD session
              let target := selection.backend.id
              if session.selectedBackend = some target then (.error (.alreadyOnBackend target), s)
              else
                match session.become .transferring with
                | .error e => (.error (.session e), s)
                | .ok (_, session) =>
                    sendTransfer env slot id player target
                      (slot.modify (fun proxy => proxy.updateSession id fun _ => session) s)

end GameGateway.Proxy
