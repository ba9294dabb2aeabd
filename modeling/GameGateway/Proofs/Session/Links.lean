import GameGateway.Proofs.Entries
import GameGateway.Session.Basic
import Mathlib.Data.List.Induction

/-!
# What the links of a session carry

A session knows the numbers of two links, which may be the same one.  A link lives as long as
its owner keeps it, and its receiver as long as someone else does, so between two sends any
link may be replaced, given up or left without a receiver.  A log beside the session tells
all this without looking into a queue: which link was attached last (`lastAttached`), what a
link has taken in (`taken`) and what was received on it (`received`).

Every step keeps two things.  A link is what the log says of it (`Link.Follows`): what it has
taken in is what was received, followed by what is queued.  And the session with all its
links is what the log says of them (`LinkRun.Faithful`).  An event changes one link at most
(`LinkEvent.link?`) and leaves what the log says of the others (`Link.Follows.of_other`), so
each step needs one lemma, about the link that it changes.
-/

namespace GameGateway

/-- The sides on which a session has links. -/
inductive LinkSide where
  | client
  | backend
deriving DecidableEq

namespace Session

/-- The link known on a side. -/
def linkOn (session : Session) : LinkSide → Option ConnectionId
  | .client => session.clientLink
  | .backend => session.backendLink

/-- The session with another link on a side, or with none. -/
def withLink (session : Session) (side : LinkSide) (link : Option ConnectionId) : Session :=
  match side with
  | .client => { session with clientLink := link }
  | .backend => { session with backendLink := link }

@[simp] theorem linkOn_withLink (session : Session) (side other : LinkSide)
    (link : Option ConnectionId) :
    (session.withLink side link).linkOn other =
      if side = other then link else session.linkOn other := by
  cases side with
  | client => cases other with
    | client => rfl
    | backend => rfl
  | backend => cases other with
    | client => rfl
    | backend => rfl

end Session

/-- Is the receiving end of a link held? -/
def LinkBook.isReceiving (book : LinkBook) (id : ConnectionId) : Bool :=
  ((book.links.get? id).map Link.receiverAlive).getD false

/-! ## Logs -/

/-- What is done with a session and its links. -/
inductive LinkStep where
  | create (capacity : Nat)
  | dropLink (id : ConnectionId)
  | dropReceiver (id : ConnectionId)
  | attach (side : LinkSide) (id : ConnectionId)
  | clearBackend
  | send (side : LinkSide) (bytes : Bytes)
  | receive (id : ConnectionId)

/-- What has been done, with the answers. -/
inductive LinkEvent where
  | created (id : ConnectionId) (capacity : Nat)
  | linkDropped (id : ConnectionId)
  | receiverDropped (id : ConnectionId)
  | attached (side : LinkSide) (id : ConnectionId)
  | backendCleared
  | sent (side : LinkSide) (bytes : Bytes)
  | refused (side : LinkSide) (bytes : Bytes) (error : SessionError)
  | received (id : ConnectionId) (bytes : Option Bytes)
deriving DecidableEq

namespace LinkLog

/-- The link attached on a side last, if the side was not cleared since. -/
def lastAttached (side : LinkSide) : List LinkEvent → Option ConnectionId
  | [] => none
  | .attached other id :: past => if other = side then some id else lastAttached side past
  | .backendCleared :: past => if side = .backend then none else lastAttached side past
  | _ :: past => lastAttached side past

/-- What was sent with success while the link was the one attached on the side, oldest
first. -/
def taken (id : ConnectionId) : List LinkEvent → List Bytes
  | [] => []
  | .sent side bytes :: past =>
      if lastAttached side past = some id then taken id past ++ [bytes] else taken id past
  | _ :: past => taken id past

/-- What was received on the link, oldest first. -/
def received (id : ConnectionId) : List LinkEvent → List Bytes
  | [] => []
  | .received other (some bytes) :: past =>
      if other = id then received id past ++ [bytes] else received id past
  | _ :: past => received id past

/-- The capacity that the link was opened with, which is one at least, or zero if it was not
opened yet. -/
def capacityOf (id : ConnectionId) : List LinkEvent → Nat
  | [] => 0
  | .created other capacity :: past => if other = id then max 1 capacity else capacityOf id past
  | _ :: past => capacityOf id past

/-- What the link has taken in and nobody has received yet, oldest first. -/
def pending (id : ConnectionId) (past : List LinkEvent) : List Bytes :=
  (taken id past).drop (received id past).length

/-- How a send ends, by the log. -/
def verdict (key : SessionId) (side : LinkSide) (past : List LinkEvent) :
    Except SessionError Unit :=
  match lastAttached side past with
  | none => .error (.linkClosed key)
  | some id =>
      if .linkDropped id ∈ past then .error (.linkClosed key)
      else if .receiverDropped id ∈ past then .error (.channel (.linkClosed id))
      else if (pending id past).length < capacityOf id past then .ok ()
      else .error (.channel (.backpressure id))

/-- The ways in which a send can end, each with what the log says then. -/
theorem verdict_cases (key : SessionId) (side : LinkSide) (past : List LinkEvent) :
    (lastAttached side past = none ∧ verdict key side past = .error (.linkClosed key)) ∨
    ∃ id, lastAttached side past = some id ∧
      ((.linkDropped id ∈ past ∧ verdict key side past = .error (.linkClosed key)) ∨
       (.linkDropped id ∉ past ∧ .receiverDropped id ∈ past ∧
          verdict key side past = .error (.channel (.linkClosed id))) ∨
       (.linkDropped id ∉ past ∧ .receiverDropped id ∉ past ∧
          (pending id past).length < capacityOf id past ∧ verdict key side past = .ok ()) ∨
       (.linkDropped id ∉ past ∧ .receiverDropped id ∉ past ∧
          capacityOf id past ≤ (pending id past).length ∧
          verdict key side past = .error (.channel (.backpressure id)))) := by
  unfold verdict
  cases lastAttached side past with
  | none => exact .inl ⟨rfl, rfl⟩
  | some id =>
      refine .inr ⟨id, rfl, ?_⟩
      by_cases hdropped : .linkDropped id ∈ past
      · exact .inl ⟨hdropped, if_pos hdropped⟩
      simp only [if_neg hdropped]
      by_cases hleft : .receiverDropped id ∈ past
      · exact .inr (.inl ⟨hdropped, hleft, if_pos hleft⟩)
      simp only [if_neg hleft]
      rcases Nat.lt_or_ge (pending id past).length (capacityOf id past) with hroom | hfull
      · exact .inr (.inr (.inl ⟨hdropped, hleft, hroom, if_pos hroom⟩))
      · exact .inr (.inr (.inr ⟨hdropped, hleft, hfull, if_neg (Nat.not_lt.mpr hfull)⟩))

/-- The ways exclude each other, so each of them is known by how the send ends. -/
theorem verdict_exact (key : SessionId) (side : LinkSide) (past : List LinkEvent) :
    (verdict key side past = .error (.linkClosed key) ↔
      lastAttached side past = none ∨
      ∃ id, lastAttached side past = some id ∧ .linkDropped id ∈ past) ∧
    (∀ id, verdict key side past = .error (.channel (.linkClosed id)) ↔
      lastAttached side past = some id ∧ .linkDropped id ∉ past ∧
      .receiverDropped id ∈ past) ∧
    (∀ id, verdict key side past = .error (.channel (.backpressure id)) ↔
      lastAttached side past = some id ∧ .linkDropped id ∉ past ∧
      .receiverDropped id ∉ past ∧ capacityOf id past ≤ (pending id past).length) ∧
    (verdict key side past = .ok () ↔
      ∃ id, lastAttached side past = some id ∧ .linkDropped id ∉ past ∧
      .receiverDropped id ∉ past ∧ (pending id past).length < capacityOf id past) := by
  obtain ⟨hlast, hverdict⟩ | ⟨id, hlast, ⟨hdropped, hverdict⟩ | ⟨hdropped, hleft, hverdict⟩ |
    ⟨hdropped, hleft, hroom, hverdict⟩ | ⟨hdropped, hleft, hfull, hverdict⟩⟩ :=
    verdict_cases key side past
  · simp [hlast, hverdict]
  · simp [hlast, hverdict, hdropped]
  · simp [hlast, hverdict, hdropped, hleft]
  · simp [hlast, hverdict, hdropped, hleft, hroom]
  · simp [hlast, hverdict, hdropped, hleft, hfull]

end LinkLog

open LinkLog

/-- The link that an event changes; `past` is the log before it. -/
def LinkEvent.link? (past : List LinkEvent) : LinkEvent → Option ConnectionId
  | .created id _ => some id
  | .linkDropped id => some id
  | .receiverDropped id => some id
  | .sent side _ => lastAttached side past
  | .received id (some _) => some id
  | _ => none

/-- A session with all links that were opened, and the log of both, latest event first. -/
structure LinkRun where
  book : LinkBook
  session : Session
  past : List LinkEvent

namespace LinkRun

/-- No link was opened yet. -/
def start (session : Session) : LinkRun :=
  ⟨.empty, (session.withLink .client none).withLink .backend none, []⟩

/-- One step of the session with the number `key`.  Only an end that is held can be attached,
received on or given up. -/
def perform (key : SessionId) (run : LinkRun) : LinkStep → LinkRun
  | .create capacity =>
      let (id, book) := run.book.create capacity
      ⟨book, run.session, .created id capacity :: run.past⟩
  | .dropLink id =>
      if run.book.isAlive id then
        ⟨run.book.dropLink id, run.session, .linkDropped id :: run.past⟩
      else run
  | .dropReceiver id =>
      if run.book.isReceiving id then
        ⟨run.book.dropReceiver id, run.session, .receiverDropped id :: run.past⟩
      else run
  | .attach side id =>
      if run.book.isAlive id then
        ⟨run.book, run.session.withLink side (some id), .attached side id :: run.past⟩
      else run
  | .clearBackend =>
      ⟨run.book, run.session.withLink .backend none, .backendCleared :: run.past⟩
  | .send side bytes =>
      match Session.send run.book key (run.session.linkOn side) bytes with
      | (.ok (), book) => ⟨book, run.session, .sent side bytes :: run.past⟩
      | (.error error, book) => ⟨book, run.session, .refused side bytes error :: run.past⟩
  | .receive id =>
      if run.book.isReceiving id then
        let (bytes, book) := run.book.receive id
        ⟨book, run.session, .received id bytes :: run.past⟩
      else run

/-- Some steps, beginning without links. -/
def after (key : SessionId) (session : Session) (steps : List LinkStep) : LinkRun :=
  steps.foldl (perform key) (start session)

end LinkRun

variable {book : LinkBook} {id : ConnectionId} {link : Link} {past : List LinkEvent}
  {event : LinkEvent}

/-! ## What a send does -/

private theorem getD_map_eq_true_iff {found : Option Link} {test : Link → Bool} :
    (found.map test).getD false = true ↔ ∃ link, found = some link ∧ test link = true := by
  cases found with
  | none => simp
  | some link => simp

theorem LinkBook.isAlive_eq_true_iff :
    book.isAlive id = true ↔ ∃ link, book.links.get? id = some link ∧ link.alive = true :=
  getD_map_eq_true_iff

theorem LinkBook.isReceiving_eq_true_iff :
    book.isReceiving id = true ↔
      ∃ link, book.links.get? id = some link ∧ link.receiverAlive = true :=
  getD_map_eq_true_iff

theorem LinkBook.isAlive_of_get? (hlink : book.links.get? id = some link) :
    book.isAlive id = link.alive := by
  rw [isAlive, hlink, Option.map_some, Option.getD_some]

theorem LinkBook.isReceiving_of_get? (hlink : book.links.get? id = some link) :
    book.isReceiving id = link.receiverAlive := by
  rw [isReceiving, hlink, Option.map_some, Option.getD_some]

theorem LinkBook.send_of_left (hlink : book.links.get? id = some link)
    (hleft : link.receiverAlive = false) (bytes : Bytes) :
    book.send id bytes = (.error (.linkClosed id), book) := by
  simp [send, hlink, hleft]

theorem LinkBook.send_of_full (hlink : book.links.get? id = some link)
    (hreceiving : link.receiverAlive = true) (hfull : link.capacity ≤ link.queue.length)
    (bytes : Bytes) : book.send id bytes = (.error (.backpressure id), book) := by
  simp [send, hlink, hreceiving, hfull]

theorem LinkBook.send_of_room (hlink : book.links.get? id = some link)
    (hreceiving : link.receiverAlive = true) (hroom : link.queue.length < link.capacity)
    (bytes : Bytes) :
    book.send id bytes = (.ok (), { book with
      links := book.links.insert id { link with queue := link.queue ++ [bytes] } }) := by
  simp [send, hlink, hreceiving, Nat.not_le.mpr hroom]

theorem Session.send_of_alive (h : book.isAlive id = true) (key : SessionId) (bytes : Bytes) :
    send book key (some id) bytes =
      ((book.send id bytes).1.mapError .channel, (book.send id bytes).2) := by
  rw [send, live?, Option.filter_some_pos h]

theorem Session.send_of_dead (h : book.isAlive id = false) (key : SessionId) (bytes : Bytes) :
    send book key (some id) bytes = (.error (.linkClosed key), book) := by
  rw [send, live?, Option.filter_some_neg h]

/-! ## What the log says of one link -/

theorem taken_of_other (h : event.link? past ≠ some id) :
    taken id (event :: past) = taken id past := by
  cases event with
  | sent side bytes => exact if_neg h
  | _ => rfl

theorem received_of_other (h : event.link? past ≠ some id) :
    received id (event :: past) = received id past := by
  cases event with
  | received other bytes =>
      cases bytes with
      | none => rfl
      | some bytes => exact if_neg fun hsame => h (congrArg some hsame)
  | _ => rfl

theorem capacityOf_of_other (h : event.link? past ≠ some id) :
    capacityOf id (event :: past) = capacityOf id past := by
  cases event with
  | created other capacity => exact if_neg fun hsame => h (congrArg some hsame)
  | _ => rfl

theorem linkDropped_of_other (h : event.link? past ≠ some id) :
    .linkDropped id ∈ event :: past ↔ .linkDropped id ∈ past :=
  mem_cons_iff_of_other (p := fun told => told.link? past = some id) h rfl

theorem receiverDropped_of_other (h : event.link? past ≠ some id) :
    .receiverDropped id ∈ event :: past ↔ .receiverDropped id ∈ past :=
  mem_cons_iff_of_other (p := fun told => told.link? past = some id) h rfl

/-- The link was not opened yet. -/
structure Unopened (id : ConnectionId) (past : List LinkEvent) : Prop where
  capacity : capacityOf id past = 0
  notTaken : taken id past = []
  notReceived : received id past = []
  notDropped : .linkDropped id ∉ past
  notLeft : .receiverDropped id ∉ past

theorem Unopened.of_other (h : Unopened id past) (hother : event.link? past ≠ some id) :
    Unopened id (event :: past) where
  capacity := (capacityOf_of_other hother).trans h.capacity
  notTaken := (taken_of_other hother).trans h.notTaken
  notReceived := (received_of_other hother).trans h.notReceived
  notDropped := (linkDropped_of_other hother).not.mpr h.notDropped
  notLeft := (receiverDropped_of_other hother).not.mpr h.notLeft

/-- A link as the log tells it. -/
structure Link.Follows (link : Link) (id : ConnectionId) (past : List LinkEvent) : Prop where
  capacity : link.capacity = capacityOf id past
  opened : 0 < link.capacity
  alive : link.alive = true ↔ .linkDropped id ∉ past
  receiving : link.receiverAlive = true ↔ .receiverDropped id ∉ past
  /-- Nothing is lost, doubled or put in another place while someone can receive. -/
  accounted : link.receiverAlive = true → taken id past = received id past ++ link.queue
  inOrder : received id past <+: taken id past
  bounded : link.queue.length ≤ link.capacity

namespace Link.Follows

theorem queue_eq_pending (h : link.Follows id past) (hreceiving : link.receiverAlive = true) :
    link.queue = pending id past := by
  rw [pending, h.accounted hreceiving, List.drop_left]

theorem alive_eq_false (h : link.Follows id past) (hdropped : .linkDropped id ∈ past) :
    link.alive = false :=
  Bool.eq_false_iff.mpr fun halive => h.alive.mp halive hdropped

theorem receiverAlive_eq_false (h : link.Follows id past)
    (hleft : .receiverDropped id ∈ past) : link.receiverAlive = false :=
  Bool.eq_false_iff.mpr fun hreceiving => h.receiving.mp hreceiving hleft

theorem hasRoom_iff (h : link.Follows id past) (hreceiving : link.receiverAlive = true) :
    (pending id past).length < capacityOf id past ↔ link.queue.length < link.capacity := by
  rw [h.queue_eq_pending hreceiving, h.capacity]

theorem of_other (h : link.Follows id past) (hother : event.link? past ≠ some id) :
    link.Follows id (event :: past) where
  capacity := h.capacity.trans (capacityOf_of_other hother).symm
  opened := h.opened
  alive := h.alive.trans (linkDropped_of_other hother).not.symm
  receiving := h.receiving.trans (receiverDropped_of_other hother).not.symm
  accounted := by
    rw [taken_of_other hother, received_of_other hother]
    exact h.accounted
  inOrder := by
    rw [taken_of_other hother, received_of_other hother]
    exact h.inOrder
  bounded := h.bounded

theorem created (h : Unopened id past) (capacity : Nat) :
    Follows { capacity := max 1 capacity } id (.created id capacity :: past) where
  capacity := by simp [capacityOf]
  opened := Nat.le_max_left 1 capacity
  alive := by simp [h.notDropped]
  receiving := by simp [h.notLeft]
  accounted := by simp [taken, received, h.notTaken, h.notReceived]
  inOrder := by simp [taken, received, h.notReceived]
  bounded := Nat.zero_le _

theorem linkDropped (h : link.Follows id past) :
    Follows { link with alive := false } id (.linkDropped id :: past) where
  capacity := h.capacity
  opened := h.opened
  alive := by simp
  receiving := by simp [h.receiving]
  accounted := h.accounted
  inOrder := h.inOrder
  bounded := h.bounded

theorem receiverDropped (h : link.Follows id past) :
    Follows { link with receiverAlive := false, queue := [] } id
      (.receiverDropped id :: past) where
  capacity := h.capacity
  opened := h.opened
  alive := by simp [h.alive]
  receiving := by simp
  accounted := by simp
  inOrder := h.inOrder
  bounded := Nat.zero_le _

/-- What is sent goes to the end of the queue. -/
theorem sent (h : link.Follows id past) {side : LinkSide}
    (hside : lastAttached side past = some id) (hreceiving : link.receiverAlive = true)
    (hroom : link.queue.length < link.capacity) (bytes : Bytes) :
    Follows { link with queue := link.queue ++ [bytes] } id
      (.sent side bytes :: past) := by
  have htaken : taken id (.sent side bytes :: past) = taken id past ++ [bytes] :=
    if_pos hside
  refine ⟨h.capacity, h.opened, ?_, ?_, ?_, ?_, ?_⟩
  · simp [h.alive]
  · simp [h.receiving]
  · intro _
    calc
      taken id (.sent side bytes :: past) = taken id past ++ [bytes] := htaken
      _ = LinkLog.received id past ++ link.queue ++ [bytes] := by rw [h.accounted hreceiving]
      _ = LinkLog.received id past ++ (link.queue ++ [bytes]) := List.append_assoc ..
  · rw [htaken]
    exact h.inOrder.trans (List.prefix_append _ _)
  · rw [List.length_append]
    exact hroom

/-- What is received was at the front of the queue. -/
theorem received (h : link.Follows id past) (hreceiving : link.receiverAlive = true)
    {bytes : Bytes} {rest : List Bytes} (hqueue : link.queue = bytes :: rest) :
    Follows { link with queue := rest } id (.received id (some bytes) :: past) := by
  have hreceived : LinkLog.received id (.received id (some bytes) :: past) =
      LinkLog.received id past ++ [bytes] := if_pos rfl
  have haccounted : taken id past = LinkLog.received id past ++ [bytes] ++ rest := by
    calc
      taken id past = LinkLog.received id past ++ link.queue := h.accounted hreceiving
      _ = LinkLog.received id past ++ bytes :: rest := by rw [hqueue]
      _ = LinkLog.received id past ++ [bytes] ++ rest := List.append_cons ..
  refine ⟨h.capacity, h.opened, ?_, ?_, ?_, ?_, ?_⟩
  · simp [h.alive]
  · simp [h.receiving]
  · intro _
    rw [hreceived]
    exact haccounted
  · rw [hreceived]
    exact ⟨rest, haccounted.symm⟩
  · have hbounded := h.bounded
    rw [hqueue] at hbounded
    exact Nat.le_of_succ_le hbounded

end Link.Follows

/-! ## What the log says of all links and of the session -/

theorem lastAttached_of_changes (h : event.link? past = some id) (side : LinkSide) :
    lastAttached side (event :: past) = lastAttached side past := by
  cases event with
  | attached side id => cases h
  | backendCleared => cases h
  | _ => rfl

/-- All links as the log tells them. -/
structure LinkBook.Follows (book : LinkBook) (past : List LinkEvent) : Prop where
  opened : ∀ id link, book.links.get? id = some link → link.Follows id past
  unopened : ∀ id, book.links.get? id = none → Unopened id past
  fresh : ∀ id, book.nextNumber ≤ id.number → book.links.get? id = none

namespace LinkBook.Follows

/-- An event that changes no link. -/
theorem keep (h : book.Follows past) (hevent : event.link? past = none) :
    book.Follows (event :: past) := by
  have hother : ∀ id, event.link? past ≠ some id := by simp [hevent]
  constructor
  · intro id link hlink
    exact (h.opened id link hlink).of_other (hother id)
  · intro id hnone
    exact (h.unopened id hnone).of_other (hother id)
  · exact h.fresh

/-- An event that changes one link, or opens it. -/
theorem change (h : book.Follows past) {next : Nat} (hnext : book.nextNumber ≤ next)
    (hid : id.number < next) (hevent : event.link? past = some id)
    (hlink : link.Follows id (event :: past)) :
    LinkBook.Follows ⟨book.links.insert id link, next⟩ (event :: past) := by
  have hother : ∀ other, other ≠ id → event.link? past ≠ some other := by
    intro other hne hsame
    rw [hevent] at hsame
    exact hne (Option.some.inj hsame).symm
  constructor
  · intro other found hfound
    rw [Table.get?_insert] at hfound
    split at hfound
    · rename_i hsame
      cases hfound
      exact hsame ▸ hlink
    · rename_i hne
      exact (h.opened other found hfound).of_other (hother other hne)
  · intro other hnone
    rw [Table.get?_insert] at hnone
    split at hnone
    · cases hnone
    · rename_i hne
      exact (h.unopened other hnone).of_other (hother other hne)
  · intro other hother
    have hne : other ≠ id := by
      rintro rfl
      exact absurd hid (Nat.not_lt.mpr hother)
    rw [Table.get?_insert, if_neg hne]
    exact h.fresh other (Nat.le_trans hnext hother)

theorem isAlive_iff (h : book.Follows past) :
    book.isAlive id = true ↔ 0 < capacityOf id past ∧ .linkDropped id ∉ past := by
  cases hlink : book.links.get? id with
  | none => simp [isAlive, hlink, (h.unopened id hlink).capacity]
  | some link =>
      have hfollows := h.opened id link hlink
      rw [isAlive_of_get? hlink, hfollows.alive, ← hfollows.capacity]
      exact (and_iff_right hfollows.opened).symm

theorem isReceiving_iff (h : book.Follows past) :
    book.isReceiving id = true ↔ 0 < capacityOf id past ∧ .receiverDropped id ∉ past := by
  cases hlink : book.links.get? id with
  | none => simp [isReceiving, hlink, (h.unopened id hlink).capacity]
  | some link =>
      have hfollows := h.opened id link hlink
      rw [isReceiving_of_get? hlink, hfollows.receiving, ← hfollows.capacity]
      exact (and_iff_right hfollows.opened).symm

theorem number_lt (h : book.Follows past) (hlink : book.links.get? id = some link) :
    id.number < book.nextNumber := by
  apply Nat.lt_of_not_le
  intro hle
  have hnone := h.fresh id hle
  rw [hlink] at hnone
  cases hnone

end LinkBook.Follows

namespace LinkRun

variable {run : LinkRun}

/-- The session and its links as the log tells them. -/
structure Faithful (run : LinkRun) : Prop where
  sides : ∀ side, run.session.linkOn side = lastAttached side run.past
  attached : ∀ side id, lastAttached side run.past = some id →
    ∃ link, run.book.links.get? id = some link
  book : run.book.Follows run.past

namespace Faithful

theorem initial (session : Session) : (start session).Faithful where
  sides := by
    intro side
    cases side with
    | client => rfl
    | backend => rfl
  attached := by
    intro side id h
    cases h
  book := by
    refine ⟨?_, ?_, ?_⟩
    · intro id link h
      cases h
    · intro id _
      exact ⟨rfl, rfl, rfl, List.not_mem_nil, List.not_mem_nil⟩
    · intro id _
      rfl

theorem keep (h : run.Faithful) (hevent : event.link? run.past = none)
    (hsides : ∀ side, lastAttached side (event :: run.past) = lastAttached side run.past) :
    Faithful ⟨run.book, run.session, event :: run.past⟩ := by
  refine ⟨?_, ?_, h.book.keep hevent⟩
  · intro side
    exact (h.sides side).trans (hsides side).symm
  · intro side id hattached
    exact h.attached side id ((hsides side).symm.trans hattached)

theorem change (h : run.Faithful) {next : Nat} (hnext : run.book.nextNumber ≤ next)
    (hid : id.number < next) (hevent : event.link? run.past = some id)
    (hlink : link.Follows id (event :: run.past)) :
    Faithful ⟨⟨run.book.links.insert id link, next⟩, run.session, event :: run.past⟩ := by
  have hsides := lastAttached_of_changes hevent
  refine ⟨?_, ?_, h.book.change hnext hid hevent hlink⟩
  · intro side
    exact (h.sides side).trans (hsides side).symm
  · intro side other hattached
    obtain ⟨found, hfound⟩ := h.attached side other ((hsides side).symm.trans hattached)
    by_cases hsame : other = id
    · exact ⟨link, by simp [hsame]⟩
    · exact ⟨found, by simp [hsame, hfound]⟩

/-- A link that there is comes to a side, or the link of the side is forgotten. -/
theorem relink (h : run.Faithful) {side : LinkSide} {attached : Option ConnectionId}
    (hevent : event.link? run.past = none)
    (hsides : ∀ other, lastAttached other (event :: run.past) =
      if side = other then attached else lastAttached other run.past)
    (hattached : ∀ id, attached = some id → ∃ link, run.book.links.get? id = some link) :
    Faithful ⟨run.book, run.session.withLink side attached, event :: run.past⟩ := by
  refine ⟨?_, ?_, h.book.keep hevent⟩
  · intro other
    rw [hsides, Session.linkOn_withLink, h.sides]
  · intro other id hlast
    rw [hsides] at hlast
    split at hlast
    · exact hattached id hlast
    · exact h.attached other id hlast

/-! ### One step -/

protected theorem create (h : run.Faithful) (key : SessionId) (capacity : Nat) :
    (run.perform key (.create capacity)).Faithful :=
  have hunopened := h.book.unopened _ (h.book.fresh ⟨run.book.nextNumber⟩ (Nat.le_refl _))
  h.change (Nat.le_succ _) (Nat.lt_succ_self _) rfl (.created hunopened capacity)

protected theorem dropLink (h : run.Faithful) (key : SessionId) (id : ConnectionId) :
    (run.perform key (.dropLink id)).Faithful := by
  simp only [perform]
  split
  · rename_i halive
    obtain ⟨link, hlink, -⟩ := LinkBook.isAlive_eq_true_iff.mp halive
    simp only [LinkBook.dropLink, Table.update, hlink]
    exact h.change (Nat.le_refl _) (h.book.number_lt hlink) rfl
      (h.book.opened id link hlink).linkDropped
  · exact h

protected theorem dropReceiver (h : run.Faithful) (key : SessionId) (id : ConnectionId) :
    (run.perform key (.dropReceiver id)).Faithful := by
  simp only [perform]
  split
  · rename_i hreceiving
    obtain ⟨link, hlink, -⟩ := LinkBook.isReceiving_eq_true_iff.mp hreceiving
    simp only [LinkBook.dropReceiver, Table.update, hlink]
    exact h.change (Nat.le_refl _) (h.book.number_lt hlink) rfl
      (h.book.opened id link hlink).receiverDropped
  · exact h

protected theorem attach (h : run.Faithful) (key : SessionId) (side : LinkSide)
    (id : ConnectionId) : (run.perform key (.attach side id)).Faithful := by
  simp only [perform]
  split
  · rename_i halive
    obtain ⟨link, hlink, -⟩ := LinkBook.isAlive_eq_true_iff.mp halive
    apply h.relink rfl
    · intro other
      rfl
    · intro other hsame
      cases hsame
      exact ⟨link, hlink⟩
  · exact h

protected theorem clearBackend (h : run.Faithful) (key : SessionId) :
    (run.perform key .clearBackend).Faithful := by
  apply h.relink rfl
  · intro other
    cases other with
    | client => rfl
    | backend => rfl
  · intro id hsame
    cases hsame

/-- A send is refused as the log says and changes nothing, or it ends as the log says and
puts the bytes at the end of the queue. -/
theorem send_cases (h : run.Faithful) (key : SessionId) (side : LinkSide) (bytes : Bytes) :
    (∃ error, verdict key side run.past = .error error ∧
      Session.send run.book key (run.session.linkOn side) bytes = (.error error, run.book)) ∨
    ∃ id link, verdict key side run.past = .ok () ∧ lastAttached side run.past = some id ∧
      run.book.links.get? id = some link ∧ link.receiverAlive = true ∧
      link.queue.length < link.capacity ∧
      Session.send run.book key (run.session.linkOn side) bytes =
        (.ok (), { run.book with
          links := run.book.links.insert id { link with queue := link.queue ++ [bytes] } }) := by
  rw [h.sides]
  cases hlast : lastAttached side run.past with
  | none =>
      left
      exact ⟨.linkClosed key, by simp [verdict, hlast], rfl⟩
  | some id =>
      obtain ⟨link, hlink⟩ := h.attached side id hlast
      have hfollows := h.book.opened id link hlink
      by_cases hdropped : .linkDropped id ∈ run.past
      · left
        have hdead : run.book.isAlive id = false := by
          rw [LinkBook.isAlive_of_get? hlink, hfollows.alive_eq_false hdropped]
        exact ⟨_, by simp [verdict, hlast, hdropped], Session.send_of_dead hdead key bytes⟩
      have halive : run.book.isAlive id = true := by
        rw [LinkBook.isAlive_of_get? hlink, hfollows.alive.mpr hdropped]
      rw [Session.send_of_alive halive]
      by_cases hleft : .receiverDropped id ∈ run.past
      · left
        rw [LinkBook.send_of_left hlink (hfollows.receiverAlive_eq_false hleft)]
        exact ⟨_, by simp [verdict, hlast, hdropped, hleft], rfl⟩
      have hreceiving : link.receiverAlive = true := hfollows.receiving.mpr hleft
      have hroom := hfollows.hasRoom_iff hreceiving
      by_cases hspace : link.queue.length < link.capacity
      · right
        rw [LinkBook.send_of_room hlink hreceiving hspace]
        refine ⟨id, link, ?_, rfl, hlink, hreceiving, hspace, rfl⟩
        simp [verdict, hlast, hdropped, hleft, hroom, hspace]
      · left
        rw [LinkBook.send_of_full hlink hreceiving (Nat.not_lt.mp hspace)]
        exact ⟨_, by simp [verdict, hlast, hdropped, hleft, hroom, hspace], rfl⟩

theorem send_fst (h : run.Faithful) (key : SessionId) (side : LinkSide) (bytes : Bytes) :
    (Session.send run.book key (run.session.linkOn side) bytes).1 = verdict key side run.past := by
  obtain ⟨error, hverdict, hsend⟩ | ⟨id, link, hverdict, -, -, -, -, hsend⟩ :=
    h.send_cases key side bytes
  · rw [hsend, hverdict]
  · rw [hsend, hverdict]

/-- A send that fails changes no link. -/
theorem send_snd (h : run.Faithful) (key : SessionId) (side : LinkSide) (bytes : Bytes)
    (hfails : verdict key side run.past ≠ .ok ()) :
    (Session.send run.book key (run.session.linkOn side) bytes).2 = run.book := by
  obtain ⟨error, -, hsend⟩ | ⟨id, link, hverdict, -⟩ := h.send_cases key side bytes
  · rw [hsend]
  · exact absurd hverdict hfails

protected theorem send (h : run.Faithful) (key : SessionId) (side : LinkSide) (bytes : Bytes) :
    (run.perform key (.send side bytes)).Faithful := by
  obtain ⟨error, -, hsend⟩ | ⟨id, link, -, hlast, hlink, hreceiving, hroom, hsend⟩ :=
    h.send_cases key side bytes
  · simp only [perform, hsend]
    exact h.keep rfl fun _ => rfl
  · simp only [perform, hsend]
    exact h.change (Nat.le_refl _) (h.book.number_lt hlink) hlast
      ((h.book.opened id link hlink).sent hlast hreceiving hroom bytes)

protected theorem receive (h : run.Faithful) (key : SessionId) (id : ConnectionId) :
    (run.perform key (.receive id)).Faithful := by
  simp only [perform]
  split
  · rename_i hheld
    obtain ⟨link, hlink, hreceiving⟩ := LinkBook.isReceiving_eq_true_iff.mp hheld
    cases hqueue : link.queue with
    | nil =>
        simp only [LinkBook.receive, hlink, hqueue]
        exact h.keep rfl fun _ => rfl
    | cons bytes rest =>
        simp only [LinkBook.receive, hlink, hqueue]
        exact h.change (Nat.le_refl _) (h.book.number_lt hlink) rfl
          ((h.book.opened id link hlink).received hreceiving hqueue)
  · exact h

protected theorem perform (h : run.Faithful) (key : SessionId) (step : LinkStep) :
    (run.perform key step).Faithful := by
  cases step with
  | create capacity => exact h.create key capacity
  | dropLink id => exact h.dropLink key id
  | dropReceiver id => exact h.dropReceiver key id
  | attach side id => exact h.attach key side id
  | clearBackend => exact h.clearBackend key
  | send side bytes => exact h.send key side bytes
  | receive id => exact h.receive key id

/-! ### Whole runs -/

protected theorem after (key : SessionId) (session : Session) (steps : List LinkStep) :
    (LinkRun.after key session steps).Faithful := by
  induction steps using List.reverseRecOn with
  | nil => exact initial session
  | append_singleton steps step ih =>
      rw [LinkRun.after, List.foldl_append]
      exact Faithful.perform ih key step

end Faithful

end LinkRun

/-! ## Nothing is lost and nothing is doubled -/

theorem LinkRun.Faithful.received_prefix {run : LinkRun} (h : run.Faithful)
    (id : ConnectionId) : received id run.past <+: taken id run.past := by
  cases hlink : run.book.links.get? id with
  | none =>
      rw [(h.book.unopened id hlink).notReceived]
      exact List.nil_prefix
  | some link => exact (h.book.opened id link hlink).inOrder

/-- While the receiver is held, the next bytes are those that have waited longest. -/
theorem LinkRun.Faithful.receive_eq {run : LinkRun} (h : run.Faithful)
    (hheld : .receiverDropped id ∉ run.past) :
    (run.book.receive id).1 = (pending id run.past).head? := by
  cases hlink : run.book.links.get? id with
  | none =>
      have hunopened := h.book.unopened id hlink
      simp [LinkBook.receive, hlink, pending, hunopened.notTaken]
  | some link =>
      have hfollows := h.book.opened id link hlink
      rw [← hfollows.queue_eq_pending (hfollows.receiving.mpr hheld)]
      cases hqueue : link.queue with
      | nil => simp [LinkBook.receive, hlink, hqueue]
      | cons bytes rest => simp [LinkBook.receive, hlink, hqueue]

/-- **Links neither lose nor double what is sent.**  What comes out of a link is what went in, in
order and at most as much; what is queued is the rest, and never more than the capacity.  A send
ends as it should by the log, and one that fails leaves all links as they are.  The ends that
are held are those that the log says were not given up. -/
theorem LinkRun.traffic_exact (key : SessionId) (session : Session) (steps : List LinkStep) :
    let run := after key session steps
    (∀ id, run.book.isAlive id = true ↔
      0 < capacityOf id run.past ∧ .linkDropped id ∉ run.past) ∧
    (∀ id, run.book.isReceiving id = true ↔
      0 < capacityOf id run.past ∧ .receiverDropped id ∉ run.past) ∧
    (∀ id, received id run.past <+: taken id run.past) ∧
    (∀ id link, run.book.links.get? id = some link →
      link.capacity = capacityOf id run.past ∧ link.queue.length ≤ link.capacity ∧
      (.receiverDropped id ∉ run.past → link.queue = pending id run.past)) ∧
    (∀ id, .receiverDropped id ∉ run.past →
      (run.book.receive id).1 = (pending id run.past).head?) ∧
    ∀ side bytes,
      let answer := Session.send run.book key (run.session.linkOn side) bytes
      (answer.1 = .error (.linkClosed key) ↔
        lastAttached side run.past = none ∨
        ∃ id, lastAttached side run.past = some id ∧ .linkDropped id ∈ run.past) ∧
      (∀ id, answer.1 = .error (.channel (.linkClosed id)) ↔
        lastAttached side run.past = some id ∧ .linkDropped id ∉ run.past ∧
        .receiverDropped id ∈ run.past) ∧
      (∀ id, answer.1 = .error (.channel (.backpressure id)) ↔
        lastAttached side run.past = some id ∧ .linkDropped id ∉ run.past ∧
        .receiverDropped id ∉ run.past ∧
        capacityOf id run.past ≤ (pending id run.past).length) ∧
      (answer.1 = .ok () ↔
        ∃ id, lastAttached side run.past = some id ∧ .linkDropped id ∉ run.past ∧
        .receiverDropped id ∉ run.past ∧
        (pending id run.past).length < capacityOf id run.past) ∧
      (answer.1 ≠ .ok () → answer.2 = run.book) := by
  intro run
  have hfaithful : run.Faithful := .after key session steps
  refine ⟨fun id => hfaithful.book.isAlive_iff, fun id => hfaithful.book.isReceiving_iff,
    hfaithful.received_prefix, ?_, fun id => hfaithful.receive_eq, ?_⟩
  · intro id link hlink
    have hfollows := hfaithful.book.opened id link hlink
    exact ⟨hfollows.capacity, hfollows.bounded, fun hheld =>
      hfollows.queue_eq_pending (hfollows.receiving.mpr hheld)⟩
  · intro side bytes answer
    have hanswer : answer.1 = verdict key side run.past := hfaithful.send_fst key side bytes
    rw [hanswer]
    obtain ⟨hclosed, hleft, hfull, hok⟩ := verdict_exact key side run.past
    exact ⟨hclosed, hleft, hfull, hok, hfaithful.send_snd key side bytes⟩

-- One link on both sides, with room for one: what is queued outlasts the link's replacement.
example : (LinkRun.after ⟨7⟩ {} [.create 1, .attach .client ⟨1⟩, .attach .backend ⟨1⟩,
    .send .client [1], .send .backend [2], .create 1, .attach .client ⟨2⟩, .dropLink ⟨1⟩,
    .send .backend [3], .receive ⟨1⟩]).past.take 4 =
      [.received ⟨1⟩ (some [1]), .refused .backend [3] (.linkClosed ⟨7⟩), .linkDropped ⟨1⟩,
        .attached .client ⟨2⟩] := rfl

end GameGateway
