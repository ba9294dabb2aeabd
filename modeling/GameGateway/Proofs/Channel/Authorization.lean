import GameGateway.Channel.Datagram
import GameGateway.Proofs.Replay.Runs
import GameGateway.Proofs.Wire.MessagingFrame

/-!
# Who may send messages

A server takes messages from an address for as long as it hears from it.  What it has heard is
told here without the table that the server keeps: `Opening.lastAccepted` goes through the
events of the past and finds the last frame from an address that counted.  A handshake counts
if its timestamp is near the clock and its nonce is new to the replay window, and a message if
the address was still fresh when it came, whether or not its channel has a handler.

The server removes an address only when a message comes from it too late, and keeps what has
run out until then.  So the table does not say which addresses are fresh, but asking it does:
that the answers agree at every later instant is the part of `Reflects` that every event keeps
(`Reflects.perform`).  It is kept because an address that is not fresh any more only becomes
fresh again by a new handshake (`Opening.Fresh.earlier`).

Both receiving and sending go by the same answers, so both are described by the last accepted
frames alone (`Opening.admission_follows_traffic`).
-/

namespace GameGateway

/-- The frame of a datagram that decodes and whose tag is right. -/
def MessagingFrame.authentic? (secret bytes : Bytes) : Option MessagingFrame :=
  match MessagingFrame.decode? bytes with
  | none => none
  | some signed => if signed.verify secret then some signed.frame else none

theorem MessagingFrame.authentic?_eq_some_iff {secret bytes : Bytes} {frame : MessagingFrame} :
    authentic? secret bytes = some frame ↔ frame.encode secret = .ok bytes := by
  rw [← authentic_iff, authentic?]
  cases decode? bytes with
  | none => simp
  | some signed => simp

open MessagingFrame (authentic?)
open ReplayWindow (Presentation)

/-! ## Single calls -/

namespace DatagramServer

variable {α : Type}

/-- The server when a nonce has been presented. -/
def present (server : DatagramServer α) (now : Millis) (nonce : Nonce) : DatagramServer α :=
  { server with nonces := (server.nonces.register now nonce).2 }

theorem nodup_peers (server : DatagramServer α) (now : Millis) : (server.peers now).Nodup :=
  (server.authorized.filter fun _ deadline => now ≤ deadline).nodup_keys

section Calls

variable [DecidableEq α]

/-- The server when it knows an address no more. -/
def forget (server : DatagramServer α) (address : α) : DatagramServer α :=
  { server with authorized := server.authorized.erase address }

variable {server : DatagramServer α} {now later : Millis} {address other : α}
  {bytes payload : Bytes} {channel : String} {timestamp : Millis} {nonce : Nonce}

theorem mem_peers_iff : address ∈ server.peers now ↔ server.isAuthorized now address = true := by
  rw [peers, Table.mem_keys_iff, Table.get?_filter, isAuthorized]
  cases server.authorized.get? address with
  | none => simp
  | some deadline => simp [Option.filter]

theorem isAuthorized_authorize : (server.authorize now address).isAuthorized later other =
    if other = address then decide (later ≤ now + server.config.peerTtl)
    else server.isAuthorized later other := by
  simp only [isAuthorized, authorize, Table.get?_insert]
  by_cases h : other = address
  · rw [if_pos h, if_pos h]
  · rw [if_neg h, if_neg h]

theorem isAuthorized_forget : (server.forget address).isAuthorized later other =
    if other = address then false else server.isAuthorized later other := by
  simp only [isAuthorized, forget, Table.get?_erase]
  by_cases h : other = address
  · rw [if_pos h, if_pos h]
  · rw [if_neg h, if_neg h]

theorem receive_eq : server.receive now address bytes =
    match authentic? server.secret bytes with
    | none => (.ignored, server)
    | some frame => server.accept now address frame := by
  unfold receive authentic?
  cases MessagingFrame.decode? bytes with
  | none => rfl
  | some signed =>
      dsimp only
      by_cases hverify : signed.verify server.secret = true
      · rw [if_pos hverify, if_pos hverify]
      · rw [if_neg hverify, if_neg hverify]

omit [DecidableEq α] in
theorem send_eq (hname : ChannelName.check channel = .ok ())
    (hencode : (MessagingFrame.message channel payload).encode server.secret = .ok bytes) :
    server.send now channel payload =
      if (server.peers now).isEmpty then .error .noPeer else .ok (bytes, server.peers now) := by
  simp only [send, hname, hencode, Except.mapError, bind, Except.bind]
  split
  · rfl
  · rfl

/-! ### What becomes of a frame -/

theorem accept_far (h : server.isNear now timestamp = false) :
    server.accept now address (.handshake timestamp nonce) = (.ignored, server) := by
  simp [accept, h]

theorem accept_replayed (hnear : server.isNear now timestamp = true)
    (hused : (server.nonces.register now nonce).1 = false) :
    server.accept now address (.handshake timestamp nonce) =
      (.ignored, server.present now nonce) := by
  simp [accept, hnear, hused, present]

theorem accept_new (address : α) (hnear : server.isNear now timestamp = true)
    (hnew : (server.nonces.register now nonce).1 = true) :
    ∃ reply, (MessagingFrame.acknowledgement nonce).encode server.secret = .ok reply ∧
      server.accept now address (.handshake timestamp nonce) =
        (.reply reply, (server.present now nonce).authorize now address) := by
  -- An acknowledgement can always be sent.
  have hreply : (MessagingFrame.acknowledgement nonce).encode server.secret = .ok _ :=
    MessagingFrame.encode_eq_ok_iff.mpr ⟨trivial, rfl⟩
  simp only [accept, hnear, hnew, Bool.not_true, Bool.false_eq_true, if_false]
  split
  · rename_i reply hencode
    exact ⟨reply, hencode, rfl⟩
  · rename_i e hencode
    cases hreply.symm.trans hencode

theorem accept_late (h : server.isAuthorized now address = false) :
    server.accept now address (.message channel payload) = (.ignored, server.forget address) := by
  simp [accept, h, forget]

theorem accept_fresh (h : server.isAuthorized now address = true) :
    server.accept now address (.message channel payload) =
      (if channel ∈ server.channels then .deliver channel payload else .ignored,
        server.authorize now address) := by
  unfold accept
  simp only [h, Bool.not_true, Bool.false_eq_true, if_false]
  by_cases hchannel : channel ∈ server.channels
  · simp [authorize, hchannel]
  · simp [authorize, hchannel]

/-- Only messages get to a handler, and only those from authorized addresses. -/
theorem accept_eq_deliver_iff {frame : MessagingFrame} :
    (server.accept now address frame).1 = .deliver channel payload ↔
      frame = .message channel payload ∧ channel ∈ server.channels ∧
        server.isAuthorized now address = true := by
  cases frame with
  | handshake timestamp nonce =>
      have hother : (server.accept now address (.handshake timestamp nonce)).1 ≠
          .deliver channel payload := by
        cases hnear : server.isNear now timestamp with
        | false => simp [accept_far hnear]
        | true =>
            cases hnew : (server.nonces.register now nonce).1 with
            | false => simp [accept_replayed hnear hnew]
            | true =>
                obtain ⟨reply, -, hreply⟩ := accept_new address hnear hnew
                simp [hreply]
      simp [hother]
  | acknowledgement nonce => simp [accept]
  | message name content =>
      cases hauthorized : server.isAuthorized now address with
      | false => simp [accept_late hauthorized]
      | true =>
          rw [accept_fresh hauthorized]
          by_cases hchannel : name ∈ server.channels
          · simp only [hchannel, if_true, DatagramOutcome.deliver.injEq,
              MessagingFrame.message.injEq, and_true]
            constructor
            · rintro ⟨rfl, rfl⟩
              exact ⟨⟨rfl, rfl⟩, hchannel⟩
            · exact fun h => h.1
          · simp only [hchannel, if_false, reduceCtorEq, MessagingFrame.message.injEq, and_true,
              false_iff]
            rintro ⟨⟨rfl, -⟩, h⟩
            exact hchannel h

end Calls

/-! ## The past of a server -/

/-- What happens at a server. -/
inductive Step (α : Type)
  | datagram (address : α) (bytes : Bytes)
  | register (channel : String)
  | unregister (channel : String)
  | send (channel : String) (payload : Bytes)

/-- A step and the instant at which it is taken. -/
structure Event (α : Type) where
  time : Millis
  step : Step α

/-- The server after an event. -/
def perform [DecidableEq α] (server : DatagramServer α) (event : Event α) : DatagramServer α :=
  match event.step with
  | .datagram address bytes => (server.receive event.time address bytes).2
  | .register channel => (server.register channel).toOption.getD server
  | .unregister channel => server.unregister channel
  | .send .. => server

/-- The channel has been given a handler, and it has not been taken away since.  As everywhere
below, the events of the past are listed from the last one to the first. -/
def IsRegistered (channel : String) : List (Event α) → Prop
  | [] => False
  | event :: past =>
      match event.step with
      | .register name => ChannelName.isValid name = true ∧ name = channel ∨
          IsRegistered channel past
      | .unregister name => name ≠ channel ∧ IsRegistered channel past
      | _ => IsRegistered channel past

/-- How a server is opened, and when. -/
structure Opening where
  secret : Bytes
  config : DatagramConfig
  time : Millis

namespace Opening

variable (o : Opening)

/-- Is the timestamp within the skew of the clock? -/
def isNear (now timestamp : Millis) : Bool :=
  (timestamp.toInt - now.toInt).natAbs ≤ o.config.maxClockSkew.toInt.natAbs

/-- The authentic frame that has come in, and its address. -/
def arrival? : Step α → Option (α × MessagingFrame)
  | .datagram address bytes => (authentic? o.secret bytes).map fun frame => (address, frame)
  | _ => none

/-- What the event presents to the replay window: the nonce of a handshake near the clock. -/
def presentation? (event : Event α) : Option (Presentation Nonce) :=
  match o.arrival? event.step with
  | some (_, .handshake timestamp nonce) =>
      if o.isNear event.time timestamp then some ⟨event.time, nonce⟩ else none
  | _ => none

/-- The replay window to which the handshakes of the past have been presented. -/
def nonces (past : List (Event α)) : ReplayWindow Nonce :=
  (ReplayWindow.new { window := o.config.maxClockSkew.saturatingMul 2 } o.time).after
    (past.reverse.filterMap o.presentation?)

/-- Does a frame count that comes at `now`, when the last one from its address was accepted at
`last`? -/
def accepts (window : ReplayWindow Nonce) (last : Option Millis) (now : Millis) :
    MessagingFrame → Bool
  | .handshake timestamp nonce => o.isNear now timestamp && (window.register now nonce).1
  | .message .. => last.any fun t => now.toInt ≤ t.toInt + o.config.peerTtl.toInt
  | .acknowledgement _ => false

/-- The clock does not go back from event to event, nor until `now`, and what is authorized now
does not stay so beyond the end of time. -/
structure Timely (past : List (Event α)) (now : Millis) : Prop where
  chronological : past.Pairwise fun later earlier => earlier.time ≤ later.time
  until_now : ∀ event ∈ past, event.time ≤ now
  in_range : now.toInt + o.config.peerTtl.toInt ≤ Int64.maxValue.toInt

/-! ### Clocks and nonces -/

section

variable {o} {past : List (Event α)} {event : Event α} {now later : Millis}

theorem Timely.before (h : o.Timely (event :: past) now) :
    o.Timely past event.time ∧ o.Timely past now ∧ event.time ≤ now := by
  obtain ⟨hlater, hpast⟩ := List.pairwise_cons.mp h.chronological
  have hnow := h.until_now event (List.mem_cons_self ..)
  have hrange := h.in_range
  refine ⟨⟨hpast, hlater, ?_⟩, ⟨hpast, fun e he => h.until_now e (List.mem_cons_of_mem _ he),
    hrange⟩, hnow⟩
  rw [Int64.le_iff_toInt_le] at hnow
  omega

/-- In range, a deadline can be told from the instant at which it was set. -/
theorem Timely.le_deadline_iff (httl : 0 ≤ o.config.peerTtl) (h : o.Timely past now) :
    later ≤ now + o.config.peerTtl ↔ later.toInt ≤ now.toInt + o.config.peerTtl.toInt := by
  have hmin := Millis.min_le_toInt now
  rw [Int64.le_iff_toInt_le, Int64.toInt_zero] at httl
  have hsum : now.HaveSum o.config.peerTtl := ⟨by omega, h.in_range⟩
  rw [Int64.le_iff_toInt_le, hsum.toInt_add]

theorem nonces_cons (event : Event α) (past : List (Event α)) : o.nonces (event :: past) =
    match o.presentation? event with
    | none => o.nonces past
    | some p => ((o.nonces past).register p.time p.key).2 := by
  rw [nonces, List.reverse_cons, List.filterMap_append, ReplayWindow.after_append, ← nonces]
  cases hpresented : o.presentation? event with
  | none => rw [List.filterMap_cons_none hpresented]; rfl
  | some p => rw [List.filterMap_cons_some hpresented]; rfl

end

/-! ### What the server has accepted -/

variable [DecidableEq α]

/-- The server to which the events of the past have led. -/
def reached (past : List (Event α)) : DatagramServer α :=
  past.foldr (fun event server => server.perform event) (.new o.secret o.config o.time)

/-- The instant at which the last frame from the address was accepted. -/
def lastAccepted (address : α) : List (Event α) → Option Millis
  | [] => none
  | event :: past =>
      match o.arrival? event.step with
      | some (origin, frame) =>
          if origin = address ∧
              o.accepts (o.nonces past) (lastAccepted address past) event.time frame then
            some event.time
          else lastAccepted address past
      | none => lastAccepted address past

/-- The last frame from the address was accepted no longer ago than addresses stay authorized. -/
def Fresh (past : List (Event α)) (address : α) (now : Millis) : Prop :=
  ∃ t, o.lastAccepted address past = some t ∧ now.toInt ≤ t.toInt + o.config.peerTtl.toInt

variable {o} {past : List (Event α)} {step : Step α} {time now later : Millis}
  {address origin : α} {frame : MessagingFrame}

theorem Fresh.earlier (h : o.Fresh past address later) (hle : now ≤ later) :
    o.Fresh past address now := by
  obtain ⟨t, hlast, hfresh⟩ := h
  exact ⟨t, hlast, Int.le_trans (Int64.le_iff_toInt_le.mp hle) hfresh⟩

theorem fresh_iff_any : o.Fresh past address now ↔
    ((o.lastAccepted address past).any fun t =>
      now.toInt ≤ t.toInt + o.config.peerTtl.toInt) = true := by
  rw [Fresh]
  cases o.lastAccepted address past with
  | none => simp
  | some t => simp

theorem lastAccepted_cons_of_accepts (harrival : o.arrival? step = some (origin, frame))
    (haccepts : o.accepts (o.nonces past) (o.lastAccepted origin past) time frame = true) :
    o.lastAccepted origin (⟨time, step⟩ :: past) = some time := by
  simp [lastAccepted, harrival, haccepts]

/-- A frame that counts makes its address fresh from the instant at which it comes. -/
theorem fresh_cons_of_accepts (harrival : o.arrival? step = some (origin, frame))
    (haccepts : o.accepts (o.nonces past) (o.lastAccepted origin past) time frame = true) :
    o.Fresh (⟨time, step⟩ :: past) address now ↔
      if address = origin then now.toInt ≤ time.toInt + o.config.peerTtl.toInt
      else o.Fresh past address now := by
  by_cases horigin : address = origin
  · subst horigin
    simp [Fresh, lastAccepted_cons_of_accepts harrival haccepts]
  · simp [Fresh, lastAccepted, harrival, horigin, Ne.symm horigin]

/-- A frame that does not count changes nothing. -/
theorem fresh_cons_of_not_accepts (harrival : o.arrival? step = some (origin, frame))
    (haccepts : o.accepts (o.nonces past) (o.lastAccepted origin past) time frame = false) :
    o.Fresh (⟨time, step⟩ :: past) address now ↔ o.Fresh past address now := by
  by_cases horigin : address = origin
  · subst horigin
    simp [Fresh, lastAccepted, harrival, haccepts]
  · simp [Fresh, lastAccepted, harrival, Ne.symm horigin]

theorem fresh_cons_of_no_arrival (hnone : o.arrival? step = none) :
    o.Fresh (⟨time, step⟩ :: past) address now ↔ o.Fresh past address now := by
  simp [Fresh, lastAccepted, hnone]

end Opening

/-! ## What a server knows of its past -/

variable [DecidableEq α]

/-- The server answers as its past tells: it has the handlers and the nonces of the past, and
from now on an address is authorized exactly as long as it is fresh. -/
structure Reflects (o : Opening) (past : List (Event α)) (server : DatagramServer α) : Prop where
  secret : server.secret = o.secret
  config : server.config = o.config
  nonces : server.nonces = o.nonces past
  channels : ∀ channel, channel ∈ server.channels ↔ IsRegistered channel past
  authorized : ∀ address now, o.Timely past now →
    (server.isAuthorized now address = true ↔ o.Fresh past address now)

namespace Reflects

variable {o : Opening} {past : List (Event α)} {server : DatagramServer α} {time : Millis}
  {address : α} {bytes payload : Bytes} {channel : String}

theorem initial (o : Opening) : Reflects o [] (o.reached ([] : List (Event α))) where
  secret := rfl
  config := rfl
  nonces := rfl
  channels := by simp [Opening.reached, new, IsRegistered]
  authorized := by simp [Opening.reached, new, isAuthorized, Opening.Fresh, Opening.lastAccepted]

theorem nonces_of_no_presentation {event : Event α} (h : Reflects o past server)
    (hnone : o.presentation? event = none) : server.nonces = o.nonces (event :: past) := by
  rw [Opening.nonces_cons, hnone]
  exact h.nonces

theorem isNear_eq (h : Reflects o past server) (now timestamp : Millis) :
    server.isNear now timestamp = o.isNear now timestamp := by
  rw [isNear, h.config, Opening.isNear]

/-- An event that makes no address fresh leaves the authorized ones as they are. -/
theorem of_not_accepted {event : Event α} {channels : List String} {window : ReplayWindow Nonce}
    (h : Reflects o past server)
    (hfresh : ∀ address now, o.Fresh (event :: past) address now ↔ o.Fresh past address now)
    (hnonces : window = o.nonces (event :: past))
    (hchannels : ∀ channel, channel ∈ channels ↔ IsRegistered channel (event :: past)) :
    Reflects o (event :: past) { server with channels := channels, nonces := window } where
  secret := h.secret
  config := h.config
  nonces := hnonces
  channels := hchannels
  authorized address now htimely := by
    rw [hfresh]
    exact h.authorized address now htimely.before.2.1

theorem of_no_arrival {step : Step α} {channels : List String} (h : Reflects o past server)
    (hnone : o.arrival? step = none)
    (hchannels : ∀ channel, channel ∈ channels ↔ IsRegistered channel (⟨time, step⟩ :: past)) :
    Reflects o (⟨time, step⟩ :: past) { server with channels := channels } :=
  h.of_not_accepted (fun _ _ => Opening.fresh_cons_of_no_arrival hnone)
    (h.nonces_of_no_presentation (by simp [Opening.presentation?, hnone])) hchannels

/-- An address that is authorized anew is fresh from now on if the frame that came is
accepted. -/
theorem of_accepted {window : ReplayWindow Nonce} {frame : MessagingFrame}
    (h : Reflects o past server) (httl : 0 ≤ o.config.peerTtl)
    (harrival : o.arrival? (.datagram address bytes) = some (address, frame))
    (haccepts : o.Timely past time →
      o.accepts (o.nonces past) (o.lastAccepted address past) time frame = true)
    (hnonces : window = o.nonces (⟨time, .datagram address bytes⟩ :: past)) :
    Reflects o (⟨time, .datagram address bytes⟩ :: past)
      ({ server with nonces := window }.authorize time address) where
  secret := h.secret
  config := h.config
  nonces := hnonces
  channels := h.channels
  authorized other now htimely := by
    obtain ⟨hthen, hnow, -⟩ := htimely.before
    rw [isAuthorized_authorize, Opening.fresh_cons_of_accepts harrival (haccepts hthen)]
    split
    · rw [decide_eq_true_iff, h.config]
      exact hthen.le_deadline_iff httl
    · exact h.authorized other now hnow

/-- What has run out at the time of the message has run out for good. -/
theorem of_late {frame : MessagingFrame} (h : Reflects o past server)
    (harrival : o.arrival? (.datagram address bytes) = some (address, frame))
    (haccepts : o.Timely past time →
      o.accepts (o.nonces past) (o.lastAccepted address past) time frame = false)
    (hlate : server.isAuthorized time address = false)
    (hnonces : server.nonces = o.nonces (⟨time, .datagram address bytes⟩ :: past)) :
    Reflects o (⟨time, .datagram address bytes⟩ :: past) (server.forget address) where
  secret := h.secret
  config := h.config
  nonces := hnonces
  channels := h.channels
  authorized other now htimely := by
    obtain ⟨hthen, hnow, hle⟩ := htimely.before
    rw [isAuthorized_forget, Opening.fresh_cons_of_not_accepts harrival (haccepts hthen)]
    split
    · rename_i hother
      subst hother
      have hstale : ¬ o.Fresh past other time := by
        rw [← h.authorized other time hthen, hlate]
        exact Bool.false_ne_true
      simpa using fun hfresh : o.Fresh past other now => hstale (hfresh.earlier hle)
    · exact h.authorized other now hnow

/-- A handshake leaves the server with what the past then tells. -/
theorem accept_handshake {timestamp : Millis} {nonce : Nonce} (h : Reflects o past server)
    (httl : 0 ≤ o.config.peerTtl)
    (hframe : authentic? o.secret bytes = some (.handshake timestamp nonce)) :
    Reflects o (⟨time, .datagram address bytes⟩ :: past)
      (server.accept time address (.handshake timestamp nonce)).2 := by
  have harrival : o.arrival? (.datagram address bytes) =
      some (address, .handshake timestamp nonce) := by simp [Opening.arrival?, hframe]
  cases hnear : o.isNear time timestamp with
  | false =>
      have hrefused : o.accepts (o.nonces past) (o.lastAccepted address past) time
          (.handshake timestamp nonce) = false := by simp [Opening.accepts, hnear]
      rw [accept_far (by rw [h.isNear_eq, hnear])]
      exact h.of_not_accepted (fun _ _ => Opening.fresh_cons_of_not_accepts harrival hrefused)
        (h.nonces_of_no_presentation (by simp [Opening.presentation?, harrival, hnear])) h.channels
  | true =>
      have hnonces : (server.nonces.register time nonce).2 =
          o.nonces (⟨time, .datagram address bytes⟩ :: past) := by
        rw [Opening.nonces_cons, h.nonces]
        simp [Opening.presentation?, harrival, hnear]
      cases hnew : (server.nonces.register time nonce).1 with
      | false =>
          have hrefused : o.accepts (o.nonces past) (o.lastAccepted address past) time
              (.handshake timestamp nonce) = false := by
            simp [Opening.accepts, ← h.nonces, hnew]
          rw [accept_replayed (by rw [h.isNear_eq, hnear]) hnew]
          exact h.of_not_accepted (fun _ _ => Opening.fresh_cons_of_not_accepts harrival hrefused)
            hnonces h.channels
      | true =>
          have haccepted : o.accepts (o.nonces past) (o.lastAccepted address past) time
              (.handshake timestamp nonce) = true := by
            simp [Opening.accepts, ← h.nonces, hnew, hnear]
          obtain ⟨reply, -, hreply⟩ := accept_new address (by rw [h.isNear_eq, hnear]) hnew
          rw [hreply]
          exact h.of_accepted httl harrival (fun _ => haccepted) hnonces

/-- A message leaves the server with what the past then tells. -/
theorem accept_message (h : Reflects o past server) (httl : 0 ≤ o.config.peerTtl)
    (hframe : authentic? o.secret bytes = some (.message channel payload)) :
    Reflects o (⟨time, .datagram address bytes⟩ :: past)
      (server.accept time address (.message channel payload)).2 := by
  have harrival : o.arrival? (.datagram address bytes) =
      some (address, .message channel payload) := by simp [Opening.arrival?, hframe]
  have hnonces : server.nonces = o.nonces (⟨time, .datagram address bytes⟩ :: past) :=
    h.nonces_of_no_presentation (by simp [Opening.presentation?, harrival])
  have haccepts : o.Timely past time →
      o.accepts (o.nonces past) (o.lastAccepted address past) time (.message channel payload) =
        server.isAuthorized time address := by
    intro htimely
    rw [Bool.eq_iff_iff, h.authorized address time htimely]
    exact Opening.fresh_iff_any.symm
  cases hauthorized : server.isAuthorized time address with
  | true =>
      rw [accept_fresh hauthorized]
      rw [hauthorized] at haccepts
      exact h.of_accepted httl harrival haccepts hnonces
  | false =>
      rw [accept_late hauthorized]
      rw [hauthorized] at haccepts
      exact h.of_late harrival haccepts hauthorized hnonces

/-- Every event leaves the server with what the past then tells. -/
theorem perform (h : Reflects o past server) (httl : 0 ≤ o.config.peerTtl) (event : Event α) :
    Reflects o (event :: past) (server.perform event) := by
  obtain ⟨time, step⟩ := event
  cases step with
  | datagram address bytes =>
      simp only [DatagramServer.perform, receive_eq, h.secret]
      cases hframe : authentic? o.secret bytes with
      | none => exact h.of_no_arrival (by simp [Opening.arrival?, hframe]) h.channels
      | some frame =>
          cases frame with
          | handshake timestamp nonce => exact h.accept_handshake httl hframe
          | message channel payload => exact h.accept_message httl hframe
          | acknowledgement nonce =>
              have harrival : o.arrival? (.datagram address bytes) =
                  some (address, .acknowledgement nonce) := by simp [Opening.arrival?, hframe]
              exact h.of_not_accepted
                (fun _ _ => Opening.fresh_cons_of_not_accepts harrival rfl)
                (h.nonces_of_no_presentation (by simp [Opening.presentation?, harrival]))
                h.channels
  | register channel =>
      simp only [DatagramServer.perform, register, ChannelName.check]
      cases hvalid : ChannelName.isValid channel with
      | true =>
          refine h.of_no_arrival rfl fun name => ?_
          simp only [IsRegistered, List.mem_cons, h.channels, hvalid, true_and]
          rw [eq_comm]
      | false =>
          refine h.of_no_arrival rfl fun name => ?_
          simp [IsRegistered, h.channels, hvalid]
  | unregister channel =>
      refine h.of_no_arrival rfl fun name => ?_
      simp only [IsRegistered, List.mem_filter, h.channels, decide_eq_true_eq]
      rw [and_comm, ne_comm]
  | send channel payload => exact h.of_no_arrival rfl h.channels

end Reflects

theorem reflects_reached (o : Opening) (httl : 0 ≤ o.config.peerTtl) (past : List (Event α)) :
    Reflects o past (o.reached past) := by
  induction past with
  | nil => exact .initial o
  | cons event past ih => exact ih.perform httl event

namespace Opening

/-- **Who may send messages, and who is sent them.**  After any events that leave room for the
time for which addresses stay authorized, a message gets to a handler exactly if it is
authentic, its channel has a handler and its address is fresh.  A datagram that does not decode
or verify leaves the server as it is.  What the server sends goes to the fresh addresses, each
once, and nowhere if there are none. -/
theorem admission_follows_traffic (o : Opening) {past : List (Event α)} {now : Millis}
    (httl : 0 ≤ o.config.peerTtl) (htimely : o.Timely past now) :
    (∀ address bytes channel payload,
      ((o.reached past).receive now address bytes).1 = .deliver channel payload ↔
        authentic? o.secret bytes = some (.message channel payload) ∧
          IsRegistered channel past ∧ o.Fresh past address now) ∧
    (∀ address bytes, authentic? o.secret bytes = none →
      (o.reached past).receive now address bytes = (.ignored, o.reached past)) ∧
    ((o.reached past).peers now).Nodup ∧
    (∀ address, address ∈ (o.reached past).peers now ↔ o.Fresh past address now) ∧
    ∀ channel payload bytes, ChannelName.check channel = .ok () →
      (MessagingFrame.message channel payload).encode o.secret = .ok bytes →
        ((∃ address, o.Fresh past address now) →
          (o.reached past).send now channel payload =
            .ok (bytes, (o.reached past).peers now)) ∧
        ((¬ ∃ address, o.Fresh past address now) →
          (o.reached past).send now channel payload = .error .noPeer) := by
  have h := reflects_reached o httl past
  revert h
  generalize o.reached past = server
  intro h
  have hpeers : ∀ address, address ∈ server.peers now ↔ o.Fresh past address now :=
    fun address => mem_peers_iff.trans (h.authorized address now htimely)
  refine ⟨fun address bytes channel payload => ?_, fun address bytes hnone => ?_,
    nodup_peers server now, hpeers, fun channel payload bytes hname hencode => ?_⟩
  · rw [receive_eq, h.secret, ← h.channels, ← h.authorized address now htimely]
    cases authentic? o.secret bytes with
    | none => simp
    | some frame => simp [accept_eq_deliver_iff]
  · rw [receive_eq, h.secret, hnone]
  · rw [← h.secret] at hencode
    constructor
    · rintro ⟨address, hfresh⟩
      have hsome := List.ne_nil_of_mem ((hpeers address).mpr hfresh)
      rw [send_eq hname hencode, if_neg (by simpa using hsome)]
    · intro hnone
      have hempty : server.peers now = [] := List.eq_nil_iff_forall_not_mem.mpr
        fun address hmem => hnone ⟨address, (hpeers address).mp hmem⟩
      rw [send_eq hname hencode, hempty]
      rfl

/-- A server with addresses that stay authorized for a tenth of a second. -/
def brief : Opening := ⟨[1], { peerTtl := 100 }, 0⟩

/-- What somebody who knows the secret of this server sends to it. -/
def genuine (frame : MessagingFrame) : Bytes :=
  frame.withTag (Hmac.sign brief.secret frame.signedBytes)

theorem authentic?_genuine {frame : MessagingFrame} (h : frame.Sendable) :
    authentic? brief.secret (genuine frame) = some frame :=
  MessagingFrame.authentic?_eq_some_iff.mpr (MessagingFrame.encode_eq_ok_iff.mpr ⟨h, rfl⟩)

omit [DecidableEq α] in
theorem arrival?_genuine {frame : MessagingFrame} (address : α) (h : frame.Sendable) :
    brief.arrival? (.datagram address (genuine frame)) = some (address, frame) := by
  rw [arrival?, authentic?_genuine h]
  rfl

/-- A handshake at the instant at which the server is opened. -/
def hello : MessagingFrame := .handshake 0 ⟨List.replicate 16 9, List.length_replicate⟩

/-- A channel gets a handler, and somebody shakes hands. -/
def greeting : List (Event Nat) :=
  [⟨0, .datagram 7 (genuine hello)⟩, ⟨0, .register "chat"⟩]

/-- Later there is a message, but on a channel without a handler. -/
def visit : List (Event Nat) := ⟨60, .datagram 7 (genuine (.message "other" []))⟩ :: greeting

theorem lastAccepted_visit : brief.lastAccepted 7 visit = some 60 := by
  have hhello : brief.arrival? (.datagram 7 (genuine hello)) = some (7, hello) :=
    arrival?_genuine 7 trivial
  have hgreeting : brief.lastAccepted 7 greeting = some 0 :=
    lastAccepted_cons_of_accepts hhello (by decide)
  have hsendable : (MessagingFrame.message "other" []).Sendable :=
    ⟨by decide, by decide, by decide⟩
  refine lastAccepted_cons_of_accepts (arrival?_genuine 7 hsendable) ?_
  rw [hgreeting]
  decide

/-- The message that no handler got has kept the address fresh: a tenth of a second later the
next one still gets to its handler. -/
theorem admission_after_visit : 0 ≤ brief.config.peerTtl ∧ brief.Timely visit 160 ∧
    IsRegistered "chat" visit ∧
    ((brief.reached visit).receive 160 7 (genuine (.message "chat" [9]))).1 =
      .deliver "chat" [9] := by
  have httl : 0 ≤ brief.config.peerTtl := by decide
  have htimely : brief.Timely visit 160 := ⟨by decide, by decide, by decide⟩
  have hregistered : IsRegistered "chat" visit := .inl ⟨by decide, rfl⟩
  have hauthentic : authentic? brief.secret (genuine (.message "chat" [9])) =
      some (.message "chat" [9]) := authentic?_genuine ⟨by decide, by decide, by decide⟩
  have hfresh : brief.Fresh visit 7 160 := ⟨60, lastAccepted_visit, by decide⟩
  exact ⟨httl, htimely, hregistered,
    ((admission_follows_traffic brief httl htimely).1 7 _ "chat" [9]).mpr
      ⟨hauthentic, hregistered, hfresh⟩⟩

end Opening

end DatagramServer

end GameGateway
