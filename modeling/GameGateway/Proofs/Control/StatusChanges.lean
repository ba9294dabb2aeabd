import GameGateway.Proofs.Control.Journal
import Mathlib.Data.List.Chain

/-!
# The changes that a proxy announces

Backends report again and again whether they are up.  Every report counts as a sighting of the
backend, but only one that differs from the report before is announced, together with the status
that was reported before.

Three things go side by side here: the status that was reported last, the announcements, and the
availability of backends.  Each of them can be read off the notices in the journal
(`Books.Heard`), and every move keeps it that way.  What is announced of one backend is then
a matter of lists of notices (`chained_changesOf`).
-/

namespace GameGateway

/-! ## Lists of notices -/

/-- The status that a backend reported last; the newest notice comes first. -/
def lastStatus (backend : String) (notices : List StatusNotice) : Option BackendStatus :=
  (notices.find? fun notice => notice.backend = backend).map StatusNotice.status

/-- The changes that notices tell of.  The newest notice comes first, and the newest change
last. -/
def changesOf : List StatusNotice → List BackendStatusChanged
  | [] => []
  | notice :: earlier =>
      let previous := lastStatus notice.backend earlier
      if previous = some notice.status then changesOf earlier
      else changesOf earlier ++ [notice.change previous]

theorem lastStatus_cons (backend : String) (notice : StatusNotice) (earlier : List StatusNotice) :
    lastStatus backend (notice :: earlier) =
      if backend = notice.backend then some notice.status else lastStatus backend earlier := by
  rw [lastStatus, List.find?_cons]
  by_cases hbackend : backend = notice.backend
  · simp [hbackend]
  · simp [hbackend, Ne.symm hbackend, lastStatus]

/-- Changes that follow one from another: nothing was before the first of them, each later one
begins with the status that the one before ended with and ends with another one, and the last one
ends with the given status. -/
structure Chained (changes : List BackendStatusChanged) (last : Option BackendStatus) : Prop where
  first : ∀ change ∈ changes.head?, change.previous = none
  linked : changes.IsChain fun change next =>
    next.previous = some change.status ∧ next.status ≠ change.status
  last : changes.getLast?.map BackendStatusChanged.status = last

theorem Chained.concat {changes : List BackendStatusChanged} {last : Option BackendStatus}
    (h : Chained changes last) {change : BackendStatusChanged} (hprevious : change.previous = last)
    (hnew : last ≠ some change.status) : Chained (changes ++ [change]) (some change.status) := by
  refine ⟨?_, ?_, by simp⟩
  · intro other hother
    cases changes with
    | nil =>
        cases Option.mem_some.mp hother
        rw [hprevious, ← h.last]
        rfl
    | cons head tail => exact h.first other hother
  · apply List.isChain_append.mpr
    refine ⟨h.linked, List.isChain_singleton _, ?_⟩
    intro before hbefore next hnext
    cases Option.mem_some.mp hnext
    have hlast := h.last
    rw [Option.mem_def.mp hbefore, Option.map_some] at hlast
    rw [hprevious, ← hlast]
    refine ⟨rfl, fun hsame => hnew ?_⟩
    rw [← hlast, hsame]

/-- What notices tell of one backend is a chain that ends with its last notice. -/
theorem chained_changesOf (backend : String) (notices : List StatusNotice) :
    Chained ((changesOf notices).filter fun change => change.backend = backend)
      (lastStatus backend notices) := by
  induction notices with
  | nil => exact ⟨nofun, .nil, rfl⟩
  | cons notice earlier ih =>
      rw [lastStatus_cons, changesOf]
      by_cases hbackend : backend = notice.backend
      · subst hbackend
        rw [if_pos rfl]
        split
        · rename_i hrepeated
          rwa [hrepeated] at ih
        · rename_i hchanged
          rw [List.filter_append]
          have hown : [notice.change (lastStatus notice.backend earlier)].filter (fun change =>
              change.backend = notice.backend) =
                [notice.change (lastStatus notice.backend earlier)] := by
            simp [StatusNotice.change]
          rw [hown]
          exact ih.concat rfl hchanged
      · rw [if_neg hbackend]
        split
        · exact ih
        · have hother : [notice.change (lastStatus notice.backend earlier)].filter (fun change =>
              change.backend = backend) = [] := by
            simpa [StatusNotice.change] using Ne.symm hbackend
          rw [List.filter_append, hother, List.append_nil]
          exact ih

/-! ## Books -/

open Journal

theorem Arrival.status?_eq_none_of_result? {a : Arrival} {result : TransferResult}
    (h : a.result? = some result) : a.status? = none := by
  cases hstatus : a.status? with
  | none => rfl
  | some notice =>
      rw [result?_eq_none_of_status? hstatus] at h
      cases h

namespace Books

/-- What is true of notices at every moment of a run that began with the tracker. -/
structure Heard (start : AvailabilityTracker) (b : Books) : Prop where
  reported : ∀ backend, b.reported.get? backend = lastStatus backend (notices b.journal).reverse
  announced : changes b.journal = changesOf (notices b.journal).reverse
  available : b.availability = start.seeAll (sightings b.journal)

variable {start : AvailabilityTracker} {b b' : Books}

theorem Heard.initial (hreported : b.reported = .empty) (hjournal : b.journal = []) :
    b.Heard b.availability := by
  refine ⟨?_, ?_, ?_⟩
  · intro backend
    rw [hreported, hjournal]
    rfl
  · rw [hjournal]
    rfl
  · rw [hjournal]
    rfl

/-- Entries that have nothing to do with notices. -/
theorem Heard.keep (h : b.Heard start) {entries : List Occurrence}
    (hjournal : b'.journal = b.journal ++ entries) (hreported : b'.reported = b.reported)
    (hnotices : notices entries = []) (hchanges : changes entries = [])
    (havailable : b'.availability = b.availability.seeAll (sightings entries)) :
    b'.Heard start := by
  have hnoticesNow : notices b'.journal = notices b.journal := read_of_silent hjournal hnotices
  refine ⟨?_, ?_, ?_⟩
  · intro backend
    rw [hreported, hnoticesNow]
    exact h.reported backend
  · rw [hnoticesNow, ← h.announced]
    exact read_of_silent hjournal hchanges
  · rw [havailable, h.available, ← AvailabilityTracker.seeAll_append]
    exact congrArg start.seeAll (read_of_append hjournal).symm

/-- A notice is announced if it changes the status that was reported last. -/
theorem Heard.hear (h : b.Heard start) {a : Arrival} {notice : StatusNotice}
    (read : a.status? = some notice) : (b.hear a notice).Heard start := by
  have hentries : notices (b.hearing a notice) = [notice] ∧
      sightings (b.hearing a notice) = [notice.sighting a.now] ∧
      changes (b.hearing a notice) =
        if b.reported.get? notice.backend = some notice.status then []
        else [notice.change (b.reported.get? notice.backend)] := by
    unfold hearing
    dsimp only
    split <;> simp [List.filterMap_cons, Occurrence.status?, Occurrence.sighting?,
      Occurrence.change?, read]
  obtain ⟨hnotice, hsighting, hchange⟩ := hentries
  have hjournal : (b.hear a notice).journal = b.journal ++ b.hearing a notice := rfl
  have hchanges : changes (b.hear a notice).journal = _ := read_of_append hjournal
  have hsightings : sightings (b.hear a notice).journal = _ := read_of_append hjournal
  have hnotices : (notices (b.hear a notice).journal).reverse =
      notice :: (notices b.journal).reverse := by
    have happended : notices (b.hear a notice).journal = _ := read_of_append hjournal
    rw [happended, ← notices, ← notices, hnotice, List.reverse_append]
    rfl
  refine ⟨?_, ?_, ?_⟩
  · intro backend
    rw [hnotices, lastStatus_cons, ← h.reported backend]
    exact Table.get?_insert ..
  · rw [hnotices, changesOf, ← h.reported, ← h.announced, hchanges, ← changes, ← changes, hchange]
    split
    · exact List.append_nil _
    · rfl
  · have havailable : (b.hear a notice).availability =
        b.availability.see (notice.sighting a.now) := rfl
    rw [havailable, h.available, ← AvailabilityTracker.seeAll_concat, hsightings, ← sightings,
      ← sightings, hsighting]

theorem Move.heard (move : Move b b') (h : b.Heard start) : b'.Heard start := by
  cases move with
  | refuse request => exact h.keep rfl rfl rfl rfl rfl
  | request request startedAt => exact h.keep rfl rfl rfl rfl rfl
  | sent requested => exact h.keep rfl rfl rfl rfl rfl
  | withdraw requested => exact h.keep rfl rfl rfl rfl rfl
  | pass noResult noStatus =>
      refine h.keep rfl rfl ?_ rfl ?_
      · simp [Occurrence.status?, noStatus]
      · simp [Occurrence.sighting?, noStatus]
        rfl
  | settle read =>
      have noStatus := Arrival.status?_eq_none_of_result? read
      refine h.keep rfl rfl ?_ rfl ?_
      · simp [List.filterMap_cons, Occurrence.status?, noStatus]
      · simp [List.filterMap_cons, Occurrence.sighting?, noStatus]
        rfl
  | hear read => exact h.hear read
  | post noCompletion noChange =>
      exact h.keep rfl rfl rfl (by simp [Occurrence.change?_posted noChange]) rfl
  | sight sighting => exact h.keep rfl rfl rfl rfl rfl

theorem Course.heard (h : Course b b') (hheard : b.Heard start) : b'.Heard start := by
  obtain ⟨hmoves, -⟩ := h
  induction hmoves with
  | refl => exact hheard
  | tail _ move ih => exact move.heard ih

end Books

/-! ## Whole runs -/

/-- What the control side has made of the notices in its journal, with a tracker to begin with: the
changes of each backend are a chain that ends with its last notice, a change is announced for every
notice that is not repeated and for no other one, and every notice, repeated or not, is a sighting
of its backend, so that one that says online counts for as long as a heartbeat lasts. -/
structure RecordedPlane.Announces (recorded : RecordedPlane) (start : AvailabilityTracker) :
    Prop where
  chained : ∀ backend,
    Chained ((changes recorded.journal).filter fun change => change.backend = backend)
      (lastStatus backend (notices recorded.journal).reverse)
  reported : ∀ backend, recorded.plane.reported.get? backend =
    lastStatus backend (notices recorded.journal).reverse
  announced : changes recorded.journal = changesOf (notices recorded.journal).reverse
  available : recorded.plane.availability = start.seeAll (sightings recorded.journal)
  alive : ∀ {earlier a notice later}, recorded.journal = earlier ++ .arrived a :: later →
    a.status? = some notice → notice.status = .online →
    (∀ s ∈ sightings later, s.backend ≠ notice.backend) → ∀ now,
    recorded.plane.availability.status now notice.backend = .online ↔
      now < a.now + start.heartbeatTimeout

theorem StatusNotice.isLife_sighting {notice : StatusNotice} (h : notice.status = .online)
    (now : Millis) : (notice.sighting now).kind.isLife = true := by
  rw [sighting, h]
  rfl

/-- **Changes form a chain.**  Start with a control side that has just been started, and let
packets come in as you like, one call within another: what is announced of backends, and what is
known of their availability, is what the notices in the journal tell. -/
theorem PlaneRun.announces {σ : Type} {slot : Slot σ RecordedPlane} {s s' : σ}
    (h : PlaneRun slot s s') (hfresh : (slot.get s).Fresh) :
    (slot.get s').Announces (slot.get s).plane.availability := by
  have hheard : (booksAt slot s').Heard (booksAt slot s).availability :=
    h.course.heard (.initial hfresh.reported hfresh.journal)
  refine ⟨?_, hheard.reported, hheard.announced, hheard.available, ?_⟩
  · intro backend
    have hannounced : changes (slot.get s').journal = _ := hheard.announced
    rw [hannounced]
    exact chained_changesOf backend _
  · intro earlier a notice later hsplit hread honline hlater now
    have hlife := notice.isLife_sighting honline a.now
    have hsightings : sightings (slot.get s').journal =
        sightings earlier ++ notice.sighting a.now :: sightings later := by
      rw [hsplit]
      simp [Occurrence.sighting?, hread]
    have havailable : (slot.get s').plane.availability = _ := hheard.available
    have hsightingsNow : sightings (booksAt slot s').journal = _ := hsightings
    rw [havailable, hsightingsNow]
    exact AvailabilityTracker.status_seeAll_of_life _ _ hlife hlater now

namespace Alone

/-- A notice comes in by way of the lobby. -/
def notify (number : Nat) (now : Millis) (notice : StatusNotice) (s : Alone RecordedPlane) :
    Alone RecordedPlane :=
  (lobbySends .backendStatus number now notice.write).perform unheard Alone.slot
    { s with clock := now }

theorem run_notify (number : Nat) (now : Millis) (notice : StatusNotice)
    {s s' : Alone RecordedPlane} (rest : PlaneRun Alone.slot (notify number now notice s) s') :
    PlaneRun Alone.slot s s' := by
  have htime : booksAt Alone.slot { s with clock := now } = booksAt Alone.slot s := rfl
  exact .elsewhere htime (run_unheard (lobbySends .backendStatus number now notice.write) rest)

/-- The lobby is online, is still online ten seconds later, and the arena is not. -/
def informed : Alone RecordedPlane :=
  notify 3 10000 ⟨"arena", .offline⟩ (notify 2 10000 ⟨"lobby", .online⟩
    (notify 1 0 ⟨"lobby", .online⟩ listening))

theorem run_informed : PlaneRun Alone.slot listening informed :=
  run_notify 1 0 _ (run_notify 2 10000 _ (run_notify 3 10000 _ (.done _)))

theorem announces_informed : informed.part.Announces listening.part.plane.availability ∧
    (changes informed.part.journal).length = 2 ∧ (notices informed.part.journal).length = 3 ∧
    informed.part.plane.availability.status 20000 "lobby" = .online :=
  ⟨run_informed.announces fresh_listening, by decide +kernel, by decide +kernel,
    by decide +kernel⟩

end Alone

end GameGateway
