import GameGateway.Control.ProxyPlane
import GameGateway.Proofs.Chains
import GameGateway.Proofs.Session.WellKept
import Mathlib.Logic.Relation

/-!
# The ledger of a proxy

What a proxy does to its sessions and to the transfers it waits for can be told without
the rest of the proxy.  The ledger holds these two together with a history: the packets
that have come in, each with the proxy as it then was, and the values that were drawn.
The history is there for proofs only; nothing a proxy does depends on it.

`Ledger.Move` lists all that can happen to a ledger.  There are only two moves after
which a session plays that did not play before: `restore` takes it back from a transfer
under way, and `authenticate` needs a packet in the history in which a backend says that
it has taken the player.  What every move keeps is kept by every sequence of moves
(`Ledger.Moves`), and so by every run of a proxy.
-/

namespace GameGateway

/-! ## Sessions change their state -/

namespace Session

/-- Only a session that plays or is under way can be marked as under way. -/
theorem become_transferring {session session' : Session} {changed : Bool}
    (h : session.become .transferring = .ok (changed, session')) :
    session' = { session with state := .transferring } ∧
      (session.state = .playing ∨ session.state = .transferring) := by
  obtain ⟨hsession', hstate⟩ := become_eq_ok h
  refine ⟨hsession', ?_⟩
  rcases hstate with hsame | hcan
  · exact .inr hsame
  · cases hstate : session.state with
    | playing => exact .inl rfl
    | new | handshaking | transferring | disconnected =>
        rw [hstate] at hcan
        cases hcan

/-- A session that a backend takes plays from then on, with the player it had; a disconnected
session is not taken. -/
theorem authenticate_eq_ok {session session' : Session} {backend : String}
    (h : session.authenticate backend = .ok session') :
    session'.state = .playing ∧ session'.player = session.player ∧
      session.state ≠ .disconnected := by
  unfold authenticate at h
  obtain ⟨⟨changed, played⟩, hplayed, hresult⟩ := bind_eq_ok_iff.mp h
  cases hresult
  obtain ⟨rfl, hstate⟩ := become_eq_ok hplayed
  split at hstate
  · rename_i htransferring
    rw [htransferring, if_pos rfl]
    exact ⟨rfl, rfl, nofun⟩
  · rename_i hother
    rw [if_neg hother]
    refine ⟨rfl, rfl, fun hgone => ?_⟩
    rw [hgone] at hstate
    rcases hstate with hsame | hcan
    · cases hsame
    · cases hcan

theorem state_restore (session : Session) :
    session.restore.state = if session.state = .transferring then .playing else session.state := by
  unfold restore
  split
  · rfl
  · rfl

@[simp] theorem player_restore (session : Session) : session.restore.player = session.player := by
  unfold restore
  split
  · rfl
  · rfl

end Session

/-! ## Ledgers -/

/-- A packet as it came in, with the control side of the proxy and the clock at that time. -/
structure Arrival where
  plane : ProxyPlane
  now : Millis
  packet : Bytes

/-- The envelope in the packet, if the packet was admitted. -/
def Arrival.admitted (a : Arrival) : Option Envelope :=
  (a.plane.endpoint.accept a.now a.packet).1

/-- The packet was admitted, and in it a backend says that it has taken the player. -/
def Arrival.Accepts (a : Arrival) (player : Uuid) : Prop :=
  ∃ envelope notice, a.admitted = some envelope ∧ envelope.kind = .tokenValidation ∧
    ValidationNotice.decode? envelope.payload = some notice ∧ notice.player = player ∧
    notice.outcome = .accepted

/-- An envelope that answers a request is read as that answer. -/
theorem ProxyPlane.process_result {σ : Type} {env : Surroundings σ} {slot : Slot σ ProxyPlane}
    {envelope : Envelope} {result : TransferResult} (hkind : envelope.kind = .transferResult)
    (hdecode : TransferResult.decode? envelope.payload = some result) (s : σ) :
    process env slot envelope s = onResult env slot result s := by
  unfold process
  rw [hkind]
  dsimp only
  rw [hdecode, dispatch]

/-- The sessions of a proxy and the transfers it waits for, with a history. -/
structure Ledger where
  sessions : SessionRegistry
  pending : Table Uuid PendingTransfer
  /-- The packets that have come in, oldest first. -/
  arrivals : List Arrival
  /-- The values that were drawn, oldest first. -/
  drawn : List (Block 16)

namespace Ledger

open SessionRegistry (WellKept Keeps Harmless)

/-- The ledger after a transfer was asked for under a value that was drawn for it. -/
def asked (l : Ledger) (correlation : Uuid) (transfer : PendingTransfer) : Ledger :=
  { l with
    pending := l.pending.insert correlation transfer
    drawn := l.drawn ++ [correlation.octets] }

/-- What can happen to a ledger at once. -/
inductive Move : Ledger → Ledger → Prop
  | draw (l : Ledger) (value : Block 16) : Move l { l with drawn := l.drawn ++ [value] }
  | arrive (l : Ledger) (a : Arrival) : Move l { l with arrivals := l.arrivals ++ [a] }
  | openFor (l : Ledger) {session : Session} (player : Uuid)
      (state : session.state = .handshaking) :
      Move l { l with sessions := l.sessions.openFor session player }
  | revise (l : Ledger) (id : SessionId) {f : Session → Session}
      (same : ∀ session, (f session).state = session.state ∧ (f session).player = session.player) :
      Move l { l with sessions := l.sessions.update id f }
  | mark (l : Ledger) {id : SessionId} {session : Session}
      (found : l.sessions.session? id = some session)
      (state : session.state = .playing ∨ session.state = .transferring) :
      Move l { l with sessions :=
        l.sessions.update id fun _ => { session with state := .transferring } }
  | restore (l : Ledger) (id : SessionId) :
      Move l { l with sessions := l.sessions.update id Session.restore }
  | remove (l : Ledger) (id : SessionId) : Move l { l with sessions := (l.sessions.remove id).2 }
  | ask (l : Ledger) (correlation : Uuid) (transfer : PendingTransfer) :
      Move l (l.asked correlation transfer)
  | withdraw (l : Ledger) (correlation : Uuid) :
      Move l { l with pending := l.pending.erase correlation }
  | authenticate (l : Ledger) {a : Arrival} {player : Uuid} {backend : String} {id : SessionId}
      {session session' : Session} (arrived : a ∈ l.arrivals) (accepts : a.Accepts player)
      (since : a.plane.sessions = l.sessions)
      (live : l.sessions.findByPlayer player = some id)
      (found : l.sessions.session? id = some session)
      (taken : session.authenticate backend = .ok session') :
      Move l { l with sessions := l.sessions.update id fun _ => session' }

/-- What can happen to a ledger in the course of time. -/
abbrev Moves : Ledger → Ledger → Prop := Relation.ReflTransGen Move

theorem Moves.of_eq {l l' : Ledger} (h : l' = l) : Moves l l' := by
  rw [h]

/-- What every move keeps is kept by every sequence of moves. -/
theorem Moves.invariant {P : Ledger → Prop} {l l' : Ledger} (h : Moves l l')
    (hmove : ∀ l l', Move l l' → P l → P l') (hl : P l) : P l' := by
  induction h with
  | refl => exact hl
  | tail _ move ih => exact hmove _ _ move ih

/-! ## Sessions -/

/-- A registry in which one session is replaced by one with the same player. -/
theorem wellKept_replace {r : SessionRegistry} {id : SessionId} {session session' : Session}
    (h : r.WellKept) (hfound : r.session? id = some session)
    (hplayer : session'.player = session.player)
    (hstate : session.state = .disconnected → session'.state = .disconnected) :
    (r.update id fun _ => session').WellKept ∧ r.Keeps (r.update id fun _ => session') := by
  refine h.update fun other hother => ?_
  rw [hfound] at hother
  cases hother
  exact ⟨hplayer, hstate⟩

/-- Every move keeps the registry well, gives no session another player and brings no
disconnected session back. -/
theorem Move.keeps {l l' : Ledger} (h : Move l l') (hl : l.sessions.WellKept) :
    l'.sessions.WellKept ∧ l.sessions.Keeps l'.sessions := by
  cases h with
  | draw | arrive | ask | withdraw => exact ⟨hl, .refl _⟩
  | openFor player state => exact hl.openFor _ player
  | revise id same =>
      exact hl.update fun session _ => ⟨(same session).2, (same session).1.trans⟩
  | mark found state =>
      refine wellKept_replace hl found rfl fun hgone => ?_
      rw [hgone] at state
      rcases state with h | h
      · cases h
      · cases h
  | restore id =>
      refine hl.update fun session _ => ⟨session.player_restore, fun hgone => ?_⟩
      rw [Session.state_restore, hgone]
      rfl
  | remove id => exact hl.remove id
  | authenticate arrived accepts since live found taken =>
      obtain ⟨-, hplayer, hstate⟩ := Session.authenticate_eq_ok taken
      exact wellKept_replace hl found hplayer fun hgone => absurd hgone hstate

theorem Moves.keeps {l l' : Ledger} (h : Moves l l') (hl : l.sessions.WellKept) :
    l'.sessions.WellKept ∧ l.sessions.Keeps l'.sessions := by
  refine h.invariant (P := fun l' => l'.sessions.WellKept ∧ l.sessions.Keeps l'.sessions)
    (fun l' l'' move ⟨hwell, hkept⟩ => ?_) ⟨hl, .refl _⟩
  obtain ⟨hwell', hkept'⟩ := move.keeps hwell
  exact ⟨hwell', hkept.trans hkept'⟩

/-! ## The history -/

theorem Move.arrivals_subset {l l' : Ledger} (h : Move l l') : l.arrivals ⊆ l'.arrivals := by
  cases h with
  | arrive a => exact List.subset_append_left _ _
  | _ => exact List.Subset.refl _

theorem Moves.arrivals_subset {l l' : Ledger} (h : Moves l l') : l.arrivals ⊆ l'.arrivals :=
  h.invariant (P := fun l' => l.arrivals ⊆ l'.arrivals)
    (fun _ _ move hsubset => List.Subset.trans hsubset move.arrivals_subset) (List.Subset.refl _)

theorem Move.drawn_prefix {l l' : Ledger} (h : Move l l') : l.drawn <+: l'.drawn := by
  cases h with
  | draw | ask => exact List.prefix_append _ _
  | _ => exact List.prefix_refl _

theorem Moves.drawn_prefix {l l' : Ledger} (h : Moves l l') : l.drawn <+: l'.drawn :=
  h.invariant (P := fun l' => l.drawn <+: l'.drawn)
    (fun _ _ move hprefix => hprefix.trans move.drawn_prefix) (List.prefix_refl _)

end Ledger

end GameGateway
