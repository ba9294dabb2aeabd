import GameGateway.Proofs.Control.Availability
import GameGateway.Proofs.Control.Reports
import GameGateway.Proofs.Proxy.Run

/-!
# The journal of the control side

Of the messages that go to and fro the control side of a proxy keeps three things: the requests
that it waits for, the status that each backend reported last, and the availability of backends.
A journal kept beside them says how they came about: which requests were made and how the calls
returned, which packets came in, which events were posted, and what somebody else learned of
a backend.

Calls are nested.  The answer to a request may come in while the request is being sent, so it
stands between the entry of the request and that of its return; and an observer of an event may
make the next request.  `Books.Move` lists all that can happen to the books at once, and a run,
however its calls are nested, is a sequence of moves in which every request that was made has
returned (`PlaneRun.course`).
-/

namespace GameGateway

/-! ## What packets say -/

/-- The answer to a request in an envelope. -/
def Envelope.result? (envelope : Envelope) : Option TransferResult :=
  if envelope.kind = .transferResult then TransferResult.decode? envelope.payload else none

/-- What a backend says about itself in an envelope. -/
def Envelope.status? (envelope : Envelope) : Option StatusNotice :=
  if envelope.kind = .backendStatus then StatusNotice.decode? envelope.payload else none

/-- The answer to a request in a packet, if the packet is admitted. -/
def Arrival.result? (a : Arrival) : Option TransferResult := a.admitted.bind Envelope.result?

/-- What a backend says about itself in a packet, if the packet is admitted. -/
def Arrival.status? (a : Arrival) : Option StatusNotice := a.admitted.bind Envelope.status?

theorem Arrival.result?_eq_none_of_status? {a : Arrival} {notice : StatusNotice}
    (h : a.status? = some notice) : a.result? = none := by
  obtain ⟨envelope, hadmitted, hstatus⟩ := Option.bind_eq_some_iff.mp h
  unfold Envelope.status? at hstatus
  split at hstatus
  · rename_i hkind
    rw [result?, hadmitted, Option.bind_some, Envelope.result?, hkind]
    rfl
  · cases hstatus

/-- The event by which an answer is announced.  Who the player is, and how long it took, is known
as long as the request is pending. -/
def TransferResult.completion (result : TransferResult) (pending : Option PendingTransfer)
    (now : Millis) : TransferCompleted where
  correlation := result.correlation
  player := pending.map PendingTransfer.player
  status := result.status
  reason := result.reason
  latency := pending.map fun pending => max 0 (now - pending.startedAt)

/-- The change that a notice tells of. -/
def StatusNotice.change (notice : StatusNotice) (previous : Option BackendStatus) :
    BackendStatusChanged :=
  ⟨notice.backend, previous, notice.status⟩

/-- A notice as a sighting of the backend that it comes from. -/
def StatusNotice.sighting (notice : StatusNotice) (now : Millis) : BackendSighting where
  time := now
  backend := notice.backend
  kind := match notice.status with
    | .online => .saidOnline
    | .offline => .saidOffline

theorem ProxyPlane.availability_hear (plane : ProxyPlane) (now : Millis) (notice : StatusNotice) :
    (plane.hear now notice).availability = plane.availability.see (notice.sighting now) := by
  obtain ⟨backend, status⟩ := notice
  cases status <;> rfl

/-! ## Journals -/

/-- An entry in the journal. -/
inductive Occurrence where
  | requested (request : TransferRequest)
  /-- The call that made the request has returned. -/
  | returned (correlation : Uuid) (sent : Bool)
  | arrived (arrival : Arrival)
  | posted (event : Posted)
  /-- Something other than a notice gave word of a backend. -/
  | sighted (sighting : BackendSighting)

namespace Occurrence

def correlation? : Occurrence → Option Uuid
  | requested request => some request.correlation
  | _ => none

def return? : Occurrence → Option (Uuid × Bool)
  | returned correlation sent => some (correlation, sent)
  | _ => none

def result? : Occurrence → Option TransferResult
  | arrived arrival => arrival.result?
  | _ => none

def status? : Occurrence → Option StatusNotice
  | arrived arrival => arrival.status?
  | _ => none

def completion? : Occurrence → Option TransferCompleted
  | posted ⟨.transferCompleted, event⟩ => some event
  | _ => none

def change? : Occurrence → Option BackendStatusChanged
  | posted ⟨.backendStatusChanged, event⟩ => some event
  | _ => none

def sighting? : Occurrence → Option BackendSighting
  | arrived arrival => arrival.status?.map fun notice => notice.sighting arrival.now
  | sighted sighting => some sighting
  | _ => none

theorem completion?_posted {event : Posted} (h : event.kind ≠ .transferCompleted) :
    (posted event).completion? = none := by
  obtain ⟨kind, event⟩ := event
  cases kind with
  | transferCompleted => exact absurd rfl h
  | _ => rfl

theorem change?_posted {event : Posted} (h : event.kind ≠ .backendStatusChanged) :
    (posted event).change? = none := by
  obtain ⟨kind, event⟩ := event
  cases kind with
  | backendStatusChanged => exact absurd rfl h
  | _ => rfl

end Occurrence

/-! What can be read in a journal, oldest entry first. -/

namespace Journal

variable (journal : List Occurrence)

/-- The correlations of the requests that were made. -/
abbrev correlations : List Uuid := journal.filterMap Occurrence.correlation?

/-- The correlations of the requests that have returned, with the answer to whether they were
sent. -/
abbrev returns : List (Uuid × Bool) := journal.filterMap Occurrence.return?

/-- The answers that were read. -/
abbrev results : List TransferResult := journal.filterMap Occurrence.result?

/-- The notices that were read. -/
abbrev notices : List StatusNotice := journal.filterMap Occurrence.status?

/-- The announcements of answers. -/
abbrev completions : List TransferCompleted := journal.filterMap Occurrence.completion?

/-- The announcements of changes. -/
abbrev changes : List BackendStatusChanged := journal.filterMap Occurrence.change?

/-- The sightings of backends. -/
abbrev sightings : List BackendSighting := journal.filterMap Occurrence.sighting?

section Reading

variable {journal} {α : Type} {read : Occurrence → Option α} {journal' entries : List Occurrence}

/-- What is read in a journal that has grown. -/
theorem read_of_append (h : journal' = journal ++ entries) :
    journal'.filterMap read = journal.filterMap read ++ entries.filterMap read := by
  rw [h, List.filterMap_append]

/-- The same is read as before if there is nothing to read in the new entries. -/
theorem read_of_silent (h : journal' = journal ++ entries) (hsilent : entries.filterMap read = []) :
    journal'.filterMap read = journal.filterMap read := by
  rw [read_of_append h, hsilent, List.append_nil]

end Reading

end Journal

open Journal (correlations returns results completions)

/-! ## Books -/

/-- What the control side keeps of messages, with the journal. -/
structure Books where
  pending : Table Uuid PendingTransfer
  reported : Table String BackendStatus
  availability : AvailabilityTracker
  journal : List Occurrence

namespace Books

/-- The books with more entries in the journal. -/
def note (books : Books) (entries : List Occurrence) : Books :=
  { books with journal := books.journal ++ entries }

theorem note_append (books : Books) (entries more : List Occurrence) :
    (books.note entries).note more = books.note (entries ++ more) := by
  rw [note, note, note, List.append_assoc]

/-- What a notice leads to in the journal. -/
def hearing (books : Books) (a : Arrival) (notice : StatusNotice) : List Occurrence :=
  let previous := books.reported.get? notice.backend
  if previous = some notice.status then [.arrived a]
  else [.arrived a, .posted ⟨.backendStatusChanged, notice.change previous⟩]

/-- A notice makes no request, returns none and announces no answer. -/
theorem hearing_apart (books : Books) (a : Arrival) (notice : StatusNotice) :
    correlations (books.hearing a notice) = [] ∧ returns (books.hearing a notice) = [] ∧
      completions (books.hearing a notice) = [] := by
  unfold hearing
  dsimp only
  split <;> exact ⟨rfl, rfl, rfl⟩

theorem results_hearing (books : Books) {a : Arrival} {notice : StatusNotice}
    (read : a.status? = some notice) : results (books.hearing a notice) = [] := by
  have hnone := Arrival.result?_eq_none_of_status? read
  unfold hearing
  dsimp only
  split <;> simp [Occurrence.result?, hnone]

/-- The books after a notice. -/
def hear (books : Books) (a : Arrival) (notice : StatusNotice) : Books :=
  { books with
    reported := books.reported.insert notice.backend notice.status
    availability := books.availability.see (notice.sighting a.now)
    journal := books.journal ++ books.hearing a notice }

/-- The books after a request was put on the list. -/
def ask (books : Books) (request : TransferRequest) (startedAt : Millis) : Books :=
  { books.note [.requested request] with
    pending := books.pending.insert request.correlation ⟨startedAt, request.player⟩ }

/-- The books after a request has failed. -/
def withdraw (books : Books) (correlation : Uuid) : Books :=
  { books.note [.returned correlation false] with
    pending := books.pending.erase correlation }

/-- The books after an answer. -/
def settle (books : Books) (a : Arrival) (result : TransferResult) : Books :=
  { books.note [.arrived a, .posted ⟨.transferCompleted,
      result.completion (books.pending.get? result.correlation) a.now⟩] with
    pending := books.pending.erase result.correlation }

/-- What can happen to the books at once. -/
inductive Move : Books → Books → Prop
  /-- A request that cannot be written is not even tried to be sent. -/
  | refuse (b : Books) (request : TransferRequest) :
      Move b (b.note [.requested request, .returned request.correlation false])
  | request (b : Books) (request : TransferRequest) (startedAt : Millis) :
      Move b (b.ask request startedAt)
  | sent (b : Books) {correlation : Uuid} (requested : correlation ∈ correlations b.journal) :
      Move b (b.note [.returned correlation true])
  | withdraw (b : Books) {correlation : Uuid} (requested : correlation ∈ correlations b.journal) :
      Move b (b.withdraw correlation)
  | pass (b : Books) {a : Arrival} (noResult : a.result? = none) (noStatus : a.status? = none) :
      Move b (b.note [.arrived a])
  | settle (b : Books) {a : Arrival} {result : TransferResult} (read : a.result? = some result) :
      Move b (b.settle a result)
  | hear (b : Books) {a : Arrival} {notice : StatusNotice} (read : a.status? = some notice) :
      Move b (b.hear a notice)
  | post (b : Books) {event : Posted} (noCompletion : event.kind ≠ .transferCompleted)
      (noChange : event.kind ≠ .backendStatusChanged) : Move b (b.note [.posted event])
  | sight (b : Books) (sighting : BackendSighting) :
      Move b { b.note [.sighted sighting] with availability := b.availability.see sighting }

/-- The books get from the first state to the second by moves, and every request that is made on
the way returns on the way. -/
structure Course (b b' : Books) : Prop where
  moves : Relation.ReflTransGen Move b b'
  settled : ∃ entries, b'.journal = b.journal ++ entries ∧
    ((returns entries).map Prod.fst).Perm (correlations entries)

namespace Course

theorem refl (b : Books) : Course b b := ⟨.refl, [], (List.append_nil _).symm, .refl _⟩

theorem of_eq {b b' : Books} (h : b' = b) : Course b b' := by
  rw [h]
  exact refl b

theorem trans {b b' b'' : Books} (h : Course b b') (h' : Course b' b'') : Course b b'' := by
  obtain ⟨hmoves, entries, hjournal, hperm⟩ := h
  obtain ⟨hmoves', more, hjournal', hperm'⟩ := h'
  refine ⟨hmoves.trans hmoves', entries ++ more, ?_, ?_⟩
  · rw [hjournal', hjournal, List.append_assoc]
  · simpa using hperm.append hperm'

/-- A move that has nothing to do with requests. -/
theorem single {b b' : Books} {entries : List Occurrence} (move : Move b b')
    (hjournal : b'.journal = b.journal ++ entries) (hreturns : returns entries = [])
    (hcorrelations : correlations entries = []) : Course b b' :=
  ⟨.single move, entries, hjournal, by rw [hreturns, hcorrelations]; exact .refl _⟩

theorem pass (b : Books) {a : Arrival} (noResult : a.result? = none) (noStatus : a.status? = none) :
    Course b (b.note [.arrived a]) :=
  single (.pass b noResult noStatus) rfl rfl rfl

theorem post (b : Books) {event : Posted} (noCompletion : event.kind ≠ .transferCompleted)
    (noChange : event.kind ≠ .backendStatusChanged) : Course b (b.note [.posted event]) :=
  single (.post b noCompletion noChange) rfl rfl rfl

theorem hear (b : Books) {a : Arrival} {notice : StatusNotice} (read : a.status? = some notice) :
    Course b (b.hear a notice) := by
  obtain ⟨hcorrelations, hreturns, -⟩ := b.hearing_apart a notice
  exact single (.hear b read) rfl hreturns hcorrelations

/-- Around a course a request is made and returns. -/
theorem around {b asked b' b'' : Books} {request : TransferRequest} {sent : Bool}
    (hasked : Move b asked) (hfirst : asked.journal = b.journal ++ [.requested request])
    (h : Course asked b') (hreturned : Move b' b'')
    (hlast : b''.journal = b'.journal ++ [.returned request.correlation sent]) : Course b b'' := by
  obtain ⟨hmoves, entries, hjournal, hperm⟩ := h
  refine ⟨(Relation.ReflTransGen.head hasked hmoves).tail hreturned,
    .requested request :: entries ++ [.returned request.correlation sent], ?_, ?_⟩
  · rw [hlast, hjournal, hfirst, List.append_assoc, List.append_assoc]
    rfl
  · have hcons := (List.perm_append_singleton _ _).trans (hperm.cons request.correlation)
    simpa [List.filterMap_cons, Occurrence.return?, Occurrence.correlation?] using hcons

/-- What was requested before a course was requested after it. -/
theorem correlations_subset {b b' : Books} (h : Course b b') :
    correlations b.journal ⊆ correlations b'.journal := by
  obtain ⟨-, entries, hjournal, -⟩ := h
  have hcorrelations : correlations b'.journal = correlations b.journal ++ correlations entries :=
    Journal.read_of_append hjournal
  rw [hcorrelations]
  exact List.subset_append_left _ _

end Course

end Books

/-! ## Recorded control sides -/

/-- The control side of a proxy with its journal. -/
structure RecordedPlane where
  plane : ProxyPlane
  journal : List Occurrence := []

namespace RecordedPlane

/-- The control side, which knows nothing of the journal. -/
def planeSlot : Slot RecordedPlane ProxyPlane where
  get := plane
  set := fun plane recorded => { recorded with plane := plane }
  get_set := fun _ _ => rfl
  set_get := fun _ => rfl
  set_set := fun _ _ _ => rfl

/-- Writes an entry into the journal. -/
def note (entry : Occurrence) (recorded : RecordedPlane) : RecordedPlane :=
  { recorded with journal := recorded.journal ++ [entry] }

/-- The books of the control side. -/
def books (recorded : RecordedPlane) : Books where
  pending := recorded.plane.pending
  reported := recorded.plane.reported
  availability := recorded.plane.availability
  journal := recorded.journal

end RecordedPlane

open RecordedPlane (planeSlot)
open Books (Course)

variable {σ : Type} {env : Surroundings σ} {slot : Slot σ RecordedPlane}

/-- The books in a state. -/
def booksAt (slot : Slot σ RecordedPlane) (s : σ) : Books := (slot.get s).books

theorem booksAt_note (entry : Occurrence) (s : σ) :
    booksAt slot (slot.modify (RecordedPlane.note entry) s) = (booksAt slot s).note [entry] := by
  rw [booksAt, slot.get_modify]
  rfl

theorem booksAt_modify (f : ProxyPlane → ProxyPlane) (s : σ) :
    booksAt slot ((slot.comp planeSlot).modify f s) =
      { booksAt slot s with
        pending := (f ((slot.comp planeSlot).get s)).pending
        reported := (f ((slot.comp planeSlot).get s)).reported
        availability := (f ((slot.comp planeSlot).get s)).availability } := by
  rw [booksAt, Slot.get_modify_comp]
  rfl

/-- Entries in the journal change nothing of what the control side keeps. -/
theorem plane_of_note {b : Books} {entries : List Occurrence} {s : σ}
    (h : booksAt slot s = b.note entries) :
    ((slot.comp planeSlot).get s).pending = b.pending ∧
      ((slot.comp planeSlot).get s).reported = b.reported ∧
      ((slot.comp planeSlot).get s).availability = b.availability :=
  ⟨congrArg Books.pending h, congrArg Books.reported h, congrArg Books.availability h⟩

theorem booksAt_setEndpoint (endpoint : ControlEndpoint) (s : σ) :
    booksAt slot (((slot.comp planeSlot).comp ProxyPlane.endpointSlot).set endpoint s) =
      booksAt slot s :=
  booksAt_modify (fun plane => { plane with endpoint := endpoint }) s

/-- What a call leads to when its result is taken apart. -/
theorem course_of_result {α : Type} {b : Books} {result : α × σ} {a : α} {s : σ}
    (hresult : result = (a, s)) (h : Course b (booksAt slot result.2)) :
    Course b (booksAt slot s) := by
  rwa [hresult] at h

/-- What the control side needs of its surroundings: the clock is not its own, drawing a value
leaves it alone, and what observers and receivers do to the books is a course, which begins with
an entry if an event is posted. -/
structure Surroundings.Noted (env : Surroundings σ) (slot : Slot σ RecordedPlane) : Prop where
  now_set : ∀ recorded s, env.now (slot.set recorded s) = env.now s
  draw : ∀ s, slot.get (env.draw s).2 = slot.get s
  post : ∀ kind event s, Course ((booksAt slot s).note [.posted ⟨kind, event⟩])
    (booksAt slot (env.post kind event s).2)
  send : ∀ channel bytes s, Course (booksAt slot s) (booksAt slot (env.send channel bytes s).2)

namespace ProxyPlane

/-! ## Requests -/

theorem send_course (h : env.Noted slot) (kind : MessageKind) (payload : Bytes) (s : σ) :
    Course (booksAt slot s) (booksAt slot (ControlEndpoint.send env
      ((slot.comp planeSlot).comp ProxyPlane.endpointSlot) kind payload s).2) := by
  have hdrawn : booksAt slot (env.draw s).2 = booksAt slot s :=
    congrArg RecordedPlane.books (h.draw s)
  unfold ControlEndpoint.send
  dsimp only
  split
  · exact .of_eq (booksAt_setEndpoint _ s)
  · split
    · exact .of_eq hdrawn
    · have hsent := h.send controlChannel
      exact hdrawn ▸ hsent _ _

/-- A request that is made and returns is a course, whatever happens while it is sent. -/
theorem requestTransfer_course (h : env.Noted slot) (request : TransferRequest) {b : Books} {s : σ}
    (hbooks : booksAt slot s = b.note [.requested request]) {result : Except ControlError Unit}
    {s' : σ} (hresult : requestTransfer env (slot.comp planeSlot) request s = (result, s')) :
    Course b ((booksAt slot s').note [.returned request.correlation result.isOk]) := by
  have hasked : booksAt slot ((slot.comp planeSlot).modify (fun plane =>
      plane.awaiting request (env.now s)) s) = b.ask request (env.now s) := by
    obtain ⟨hpending, hreported, havailability⟩ := plane_of_note hbooks
    rw [booksAt_modify, awaiting, hpending, hreported, havailability, hbooks]
    rfl
  -- The answer may come in while the request is being sent, and finds it on the list.
  have hsent : ∀ payload, Course (b.ask request (env.now s))
      (booksAt slot (ControlEndpoint.send env ((slot.comp planeSlot).comp ProxyPlane.endpointSlot)
        .transferRequest payload ((slot.comp planeSlot).modify (fun plane =>
          plane.awaiting request (env.now s)) s)).2) := by
    intro payload
    rw [← hasked]
    exact send_course h _ _ _
  have hrequested : request.correlation ∈ correlations (b.note [.requested request]).journal := by
    simp [Books.note, Occurrence.correlation?]
  have hask := Books.Move.request b request (env.now s)
  unfold requestTransfer at hresult
  split at hresult
  · cases hresult
    rw [hbooks, Books.note_append]
    exact ⟨.single (.refuse b request), _, rfl, .refl _⟩
  · rename_i payload _
    dsimp only at hresult
    split at hresult
    · rename_i hok
      cases hresult
      have hcourse := course_of_result hok (hsent payload)
      exact .around hask rfl hcourse (.sent _ (hcourse.correlations_subset hrequested)) rfl
    · rename_i herror
      cases hresult
      have hcourse := course_of_result herror (hsent payload)
      rw [booksAt_modify]
      exact .around hask rfl hcourse (.withdraw _ (hcourse.correlations_subset hrequested)) rfl

/-! ## Packets -/

/-- Of what is kept, an answer only takes its request off the list. -/
theorem settle_tables (plane : ProxyPlane) (result : TransferResult) :
    (plane.settle result).pending = plane.pending.erase result.correlation ∧
      (plane.settle result).reported = plane.reported ∧
      (plane.settle result).availability = plane.availability := by
  unfold settle
  dsimp only
  split
  · exact ⟨rfl, rfl, rfl⟩
  · split
    · unfold restore
      split <;> exact ⟨rfl, rfl, rfl⟩
    · exact ⟨rfl, rfl, rfl⟩

/-- Events that are neither completions nor changes mean nothing to the books. -/
theorem post_course (h : env.Noted slot) (kind : EventKind) (event : Event kind) (s : σ)
    (noCompletion : kind ≠ .transferCompleted) (noChange : kind ≠ .backendStatusChanged) :
    Course (booksAt slot s) (booksAt slot (env.post kind event s).2) :=
  (Course.post _ noCompletion noChange).trans (h.post kind event s)

theorem onValidation_course (h : env.Noted slot) (notice : ValidationNotice) (s : σ) :
    Course (booksAt slot s) (booksAt slot (onValidation env (slot.comp planeSlot) notice s)) := by
  have htold := post_course h .tokenValidated
    ⟨notice.player, notice.backend, notice.outcome, notice.reason⟩ s nofun nofun
  unfold onValidation
  dsimp only
  split
  · exact htold
  · split
    · exact htold
    · rename_i id session _
      refine (htold.trans (.of_eq ?_)).trans (post_course h .playerAuthenticated _ _ nofun nofun)
      exact booksAt_modify (fun plane =>
        { plane with sessions := plane.sessions.update id fun _ => session }) _

section Packets

variable {a : Arrival} {b : Books} {s : σ} (h : env.Noted slot)
  (hbooks : booksAt slot s = b.note [.arrived a]) (hnow : env.now s = a.now)

include h hbooks hnow

theorem onResult_course {result : TransferResult} (hread : a.result? = some result) :
    Course b (booksAt slot (onResult env (slot.comp planeSlot) result s)) := by
  obtain ⟨hpending, hreported, havailability⟩ := plane_of_note hbooks
  have hsettled : booksAt slot ((slot.comp planeSlot).modify (fun plane => plane.settle result) s) =
      { b.note [.arrived a] with pending := b.pending.erase result.correlation } := by
    obtain ⟨herased, hkept, hsame⟩ := settle_tables ((slot.comp planeSlot).get s) result
    rw [booksAt_modify, herased, hkept, hsame, hpending, hreported, havailability, hbooks]
    rfl
  have hsettle : Course b { b.note ([.arrived a] ++ [.posted ⟨.transferCompleted,
      result.completion (b.pending.get? result.correlation) a.now⟩]) with
        pending := b.pending.erase result.correlation } :=
    .single (.settle b hread) rfl rfl rfl
  rw [← Books.note_append] at hsettle
  unfold onResult
  dsimp only
  rw [hpending, hnow]
  refine hsettle.trans ?_
  have hposted := h.post .transferCompleted
    (result.completion (b.pending.get? result.correlation) a.now)
    ((slot.comp planeSlot).modify (fun plane => plane.settle result) s)
  rw [hsettled] at hposted
  exact hposted

theorem onStatus_course {notice : StatusNotice} (hread : a.status? = some notice) :
    Course b (booksAt slot (onStatus env (slot.comp planeSlot) notice s)) := by
  obtain ⟨hpending, hreported, havailability⟩ := plane_of_note hbooks
  have hheard : booksAt slot ((slot.comp planeSlot).modify (fun plane =>
      plane.hear (env.now s) notice) s) =
      { b.note [.arrived a] with
        reported := b.reported.insert notice.backend notice.status
        availability := b.availability.see (notice.sighting a.now) } := by
    have hkept : ∀ plane : ProxyPlane, (plane.hear a.now notice).pending = plane.pending ∧
        (plane.hear a.now notice).reported =
          plane.reported.insert notice.backend notice.status := fun _ => ⟨rfl, rfl⟩
    rw [hnow, booksAt_modify, (hkept _).1, (hkept _).2, availability_hear, hpending, hreported,
      havailability, hbooks]
    rfl
  have hhear := Course.hear b hread
  unfold Books.hear Books.hearing at hhear
  unfold onStatus
  dsimp only at hhear ⊢
  rw [hreported]
  split
  · rename_i hsame
    rw [if_pos hsame] at hhear
    rw [hheard]
    exact hhear
  · rename_i hother
    rw [if_neg hother] at hhear
    have hposted := h.post .backendStatusChanged
      (notice.change (b.reported.get? notice.backend))
      ((slot.comp planeSlot).modify (fun plane => plane.hear (env.now s) notice) s)
    rw [hheard, Books.note, Books.note, List.append_assoc] at hposted
    exact hhear.trans hposted

/-- What an admitted envelope does. -/
theorem process_course {envelope : Envelope} (hadmitted : a.admitted = some envelope) :
    Course b (booksAt slot (process env (slot.comp planeSlot) envelope s)) := by
  have hresult : a.result? = envelope.result? := by
    rw [Arrival.result?, hadmitted, Option.bind_some]
  have hstatus : a.status? = envelope.status? := by
    rw [Arrival.status?, hadmitted, Option.bind_some]
  have hpassed : envelope.result? = none → envelope.status? = none →
      Course b (booksAt slot s) := by
    intro noResult noStatus
    rw [hbooks]
    exact .pass b (hresult.trans noResult) (hstatus.trans noStatus)
  have hrejected : envelope.result? = none → envelope.status? = none → ∀ reason,
      Course b (booksAt slot (reject (slot.comp planeSlot) reason s)) :=
    fun noResult noStatus reason =>
      (hpassed noResult noStatus).trans (.of_eq (booksAt_setEndpoint _ s))
  unfold Envelope.result? at hresult hrejected hpassed
  unfold Envelope.status? at hstatus hrejected hpassed
  unfold process
  cases hkind : envelope.kind with
  | transferRequest =>
      rw [hkind] at hrejected
      exact hrejected rfl rfl _
  | transferResult =>
      rw [hkind] at hresult hrejected
      dsimp only
      cases hdecode : TransferResult.decode? envelope.payload with
      | none => exact hrejected hdecode rfl _
      | some result => exact onResult_course h hbooks hnow (hresult.trans hdecode)
  | tokenValidation =>
      rw [hkind] at hpassed hrejected
      dsimp only
      cases ValidationNotice.decode? envelope.payload with
      | none => exact hrejected rfl rfl _
      | some notice => exact (hpassed rfl rfl).trans (onValidation_course h notice s)
  | backendStatus =>
      rw [hkind] at hstatus hrejected
      dsimp only
      cases hdecode : StatusNotice.decode? envelope.payload with
      | none => exact hrejected rfl hdecode _
      | some notice => exact onStatus_course h hbooks hnow (hstatus.trans hdecode)

end Packets

/-- Handling a packet whose arrival has just been noted. -/
theorem handlePacket_course (h : env.Noted slot) (packet : Bytes) (s : σ) :
    Course (booksAt slot s) (booksAt slot (handlePacket env (slot.comp planeSlot) packet
      (slot.modify (RecordedPlane.note
        (.arrived ⟨(slot.get s).plane, env.now s, packet⟩)) s))) := by
  generalize harrival : Arrival.mk (slot.get s).plane (env.now s) packet = a
  have hget : slot.get (slot.modify (RecordedPlane.note (.arrived a)) s) =
      (slot.get s).note (.arrived a) := slot.get_modify _ _
  have hbooks : booksAt slot (slot.modify (RecordedPlane.note (.arrived a)) s) =
      (booksAt slot s).note [.arrived a] := booksAt_note _ s
  have hnow : env.now (slot.modify (RecordedPlane.note (.arrived a)) s) = a.now := by
    rw [← harrival]
    exact h.now_set _ _
  have hpacket : a.packet = packet := by rw [← harrival]
  generalize slot.modify (RecordedPlane.note (.arrived a)) s = noted at hget hbooks hnow ⊢
  have hendpoint : ((slot.comp planeSlot).comp ProxyPlane.endpointSlot).get noted =
      a.plane.endpoint := by
    show (slot.get noted).plane.endpoint = _
    rw [hget, ← harrival]
    rfl
  unfold handlePacket ControlEndpoint.handle
  dsimp only
  rw [hendpoint, hnow, ← hpacket]
  -- The endpoint has changed when the envelope is read, but nothing of the books has.
  have hvisited := (booksAt_setEndpoint (a.plane.endpoint.accept a.now a.packet).2 noted).trans
    hbooks
  split
  · rename_i hturned
    rw [hvisited]
    refine .pass _ ?_ ?_
    · rw [Arrival.result?, Arrival.admitted, hturned, Option.bind_none]
    · rw [Arrival.status?, Arrival.admitted, hturned, Option.bind_none]
  · rename_i envelope hadmitted
    refine (process_course h hvisited ?_ hadmitted).trans (.of_eq (booksAt_setEndpoint _ _))
    exact (h.now_set _ _).trans hnow

end ProxyPlane

/-! ## Runs -/

/-- A call of the control side from outside, or something that is learned of a backend
otherwise. -/
inductive PlaneCall where
  | request (request : TransferRequest)
  | packet (bytes : Bytes)
  | sight (backend : String) (kind : SightingKind)

namespace PlaneCall

/-- What a call does, with what is noted of it. -/
def perform (env : Surroundings σ) (slot : Slot σ RecordedPlane) (call : PlaneCall) (s : σ) : σ :=
  match call with
  | .request transfer =>
      let s := slot.modify (RecordedPlane.note (.requested transfer)) s
      let (result, s) := ProxyPlane.requestTransfer env (slot.comp planeSlot) transfer s
      slot.modify (RecordedPlane.note (.returned transfer.correlation result.isOk)) s
  | .packet bytes =>
      ProxyPlane.handlePacket env (slot.comp planeSlot) bytes
        (slot.modify (RecordedPlane.note (.arrived ⟨(slot.get s).plane, env.now s, bytes⟩)) s)
  | .sight backend kind =>
      let sighting : BackendSighting := ⟨env.now s, backend, kind⟩
      let s := (slot.comp planeSlot).modify (fun plane =>
        { plane with availability := plane.availability.see sighting }) s
      slot.modify (RecordedPlane.note (.sighted sighting)) s

theorem perform_course (h : env.Noted slot) (call : PlaneCall) (s : σ) :
    Course (booksAt slot s) (booksAt slot (call.perform env slot s)) := by
  cases call with
  | request transfer =>
      unfold perform
      dsimp only
      rw [booksAt_note]
      exact ProxyPlane.requestTransfer_course h transfer (booksAt_note _ s) rfl
  | packet bytes => exact ProxyPlane.handlePacket_course h bytes s
  | sight backend kind =>
      unfold perform
      dsimp only
      rw [booksAt_note, booksAt_modify]
      exact .single (.sight (booksAt slot s) ⟨env.now s, backend, kind⟩) rfl rfl rfl

end PlaneCall

/-- The control side gets from the first state to the second.  Each call has surroundings of its
own; an event is noted when it is posted, and what observers and receivers do while a call is
under way is a run again. -/
inductive PlaneRun (slot : Slot σ RecordedPlane) : σ → σ → Prop
  | done (s : σ) : PlaneRun slot s s
  | elsewhere {s s' s'' : σ} (untouched : booksAt slot s' = booksAt slot s)
      (rest : PlaneRun slot s' s'') : PlaneRun slot s s''
  | call (env : Surroundings σ) (call : PlaneCall) {s s' : σ}
      (now_set : ∀ recorded s, env.now (slot.set recorded s) = env.now s)
      (draw : ∀ s, slot.get (env.draw s).2 = slot.get s)
      (post : ∀ kind event s,
        PlaneRun slot (slot.modify (RecordedPlane.note (.posted ⟨kind, event⟩)) s)
          (env.post kind event s).2)
      (send : ∀ channel bytes s, PlaneRun slot s (env.send channel bytes s).2)
      (rest : PlaneRun slot (call.perform env slot s) s') : PlaneRun slot s s'

/-- However its calls are nested, a run is a course of the books. -/
theorem PlaneRun.course {s s' : σ} (h : PlaneRun slot s s') :
    Course (booksAt slot s) (booksAt slot s') := by
  -- What the surroundings of a call do is a run of its own, so the hypotheses for `post` and
  -- `send` are what makes them keep to the rules.
  induction h with
  | done s => exact .refl _
  | elsewhere untouched rest ih => exact untouched ▸ ih
  | call env call now_set draw post send rest ihPost ihSend ihRest =>
      refine .trans (call.perform_course ⟨now_set, draw, fun kind event s => ?_, ihSend⟩ _) ihRest
      have hposted := ihPost kind event s
      rwa [booksAt_note] at hposted

/-- The control side as it is when it has just been started: nothing is pending, nothing was
reported, and the journal is empty. -/
structure RecordedPlane.Fresh (recorded : RecordedPlane) : Prop where
  pending : recorded.plane.pending = .empty
  reported : recorded.plane.reported = .empty
  journal : recorded.journal = []

/-! ## A recorded control side alone with a clock -/

namespace Alone

/-- Surroundings in which events are noted and messages are delivered in the given way. -/
def noting (deliver : Alone RecordedPlane → Except ChannelError Unit × Alone RecordedPlane) :
    Surroundings (Alone RecordedPlane) where
  now := clock
  draw := fun s => (fresh, s)
  post := fun kind event s =>
    (event, Alone.slot.modify (RecordedPlane.note (.posted ⟨kind, event⟩)) s)
  send := fun _ _ s => deliver s

/-- Surroundings in which every message is sent and nobody hears of it. -/
def unheard : Surroundings (Alone RecordedPlane) := noting fun s => (.ok (), s)

theorem run_noting {deliver : Alone RecordedPlane → Except ChannelError Unit × Alone RecordedPlane}
    (hdeliver : ∀ s, PlaneRun Alone.slot s (deliver s).2) (call : PlaneCall)
    {s s' : Alone RecordedPlane}
    (rest : PlaneRun Alone.slot (call.perform (noting deliver) Alone.slot s) s') :
    PlaneRun Alone.slot s s' :=
  .call (noting deliver) call (fun _ _ => rfl) (fun _ => rfl) (fun _ _ _ => .done _)
    (fun _ _ => hdeliver) rest

theorem run_unheard (call : PlaneCall) {s s' : Alone RecordedPlane}
    (rest : PlaneRun Alone.slot (call.perform unheard Alone.slot s) s') :
    PlaneRun Alone.slot s s' :=
  run_noting (fun _ => .done _) call rest

/-- The control side of a proxy in front of two backends that has just been started. -/
def listening : Alone RecordedPlane := ⟨0, { plane := opened.part.proxy.plane }⟩

theorem fresh_listening : listening.part.Fresh := ⟨rfl, rfl, rfl⟩

/-- The lobby sends a message; the nonce is made of a number. -/
def lobbySends (kind : MessageKind) (number : Nat) (issuedAt : Millis) (payload : Bytes) :
    PlaneCall :=
  .packet (Envelope.write
    { kind := kind, sender := "lobby", issuedAt := issuedAt, ttl := 10000
      nonce := (Uuid.ofNat number).octets, payload := payload })

end Alone

end GameGateway
