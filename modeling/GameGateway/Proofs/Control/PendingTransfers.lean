import GameGateway.Proofs.Control.Journal
import GameGateway.Proofs.Entries
import Mathlib.Data.List.TakeWhile

/-!
# The transfers that a proxy waits for

A request is put on the list before it is sent.  An answer takes it off, and that may happen while
it is being sent; if it could not be sent the call itself takes it off.

At every moment of a run the list is as the journal says: a request is on it exactly if it was
made, has not failed, and no answer to it has been read since (`Books.Listed`).  At the end of
a run every call has returned, so what has not failed was sent (`Journal.waiting_iff_owed`).

What answers are announced by is settled with a potential: for every correlation, the completions
that name a player and the request on the list, if there is one, are together no more than the
requests that were made (`Books.Announced`).  An answer turns a request on the list into such
a completion, and only a new request adds to the sum.
-/

namespace GameGateway

/-! ## Reading the journal -/

namespace Journal

/-- The journal from the first request with the correlation on. -/
def since (correlation : Uuid) (journal : List Occurrence) : List Occurrence :=
  journal.dropWhile fun entry => entry.correlation? ≠ some correlation

/-- Since the request was made no answer to it has been read. -/
def Unanswered (journal : List Occurrence) (correlation : Uuid) : Prop :=
  ∀ result ∈ results (since correlation journal), result.correlation ≠ correlation

/-- The request was made, has not failed, and no answer to it has been read since. -/
def Waiting (journal : List Occurrence) (correlation : Uuid) : Prop :=
  correlation ∈ correlations journal ∧ (correlation, false) ∉ returns journal ∧
    Unanswered journal correlation

/-- The request was sent, and no answer to it has been read since it was made. -/
def Owed (journal : List Occurrence) (correlation : Uuid) : Prop :=
  (correlation, true) ∈ returns journal ∧ Unanswered journal correlation

instance (journal : List Occurrence) : DecidablePred (Unanswered journal) := fun correlation =>
  inferInstanceAs (Decidable (∀ result ∈ results (since correlation journal), _))

instance (journal : List Occurrence) : DecidablePred (Owed journal) := fun _ =>
  inferInstanceAs (Decidable (_ ∧ _))

/-- The number of completions of the request that name a player. -/
def named (journal : List Occurrence) (correlation : Uuid) : Nat :=
  (completions journal).countP fun event =>
    event.correlation = correlation ∧ event.player.isSome = true

/-- The entries take the request off the list: it could not be sent, or an answer was read. -/
def Dismisses (entries : List Occurrence) (correlation : Uuid) : Prop :=
  (correlation, false) ∈ returns entries ∨
    ∃ result ∈ results entries, result.correlation = correlation

section Appending

variable {journal more : List Occurrence} {correlation : Uuid}

theorem since_append_of_mem (h : correlation ∈ correlations journal) :
    since correlation (journal ++ more) = since correlation journal ++ more := by
  obtain ⟨entry, hentry, hcorrelation⟩ := List.mem_filterMap.mp h
  rw [since, List.dropWhile_append, if_neg]
  · rfl
  · rw [List.isEmpty_iff, List.dropWhile_eq_nil_iff]
    intro hall
    exact of_decide_eq_true (hall entry hentry) hcorrelation

theorem since_append_of_not_mem (h : correlation ∉ correlations journal) :
    since correlation (journal ++ more) = since correlation more := by
  apply List.dropWhile_append_of_pos
  intro entry hentry
  rw [decide_eq_true_eq]
  intro hsome
  exact h (List.mem_filterMap.mpr ⟨entry, hentry, hsome⟩)

/-- Entries that do not make the request can only take it off the list. -/
theorem waiting_append (hnew : correlation ∉ correlations more) :
    Waiting (journal ++ more) correlation ↔
      Waiting journal correlation ∧ ¬ Dismisses more correlation := by
  unfold Waiting Dismisses Unanswered
  by_cases hmem : correlation ∈ correlations journal
  · rw [since_append_of_mem hmem]
    simp only [correlations, returns, results, List.filterMap_append, List.mem_append, or_imp,
      forall_and] at hmem ⊢
    simp only [hmem, true_or, true_and, not_or, not_exists, not_and]
    tauto
  · simp only [correlations, List.filterMap_append, List.mem_append] at hmem hnew ⊢
    simp [hmem, hnew]

/-- A request that was made just now is waited for. -/
theorem waiting_concat {request : TransferRequest}
    (hnew : request.correlation ∉ correlations journal)
    (hreturned : (request.correlation, false) ∉ returns journal) :
    Waiting (journal ++ [.requested request]) request.correlation := by
  refine ⟨?_, ?_, ?_⟩
  · simp [Occurrence.correlation?]
  · simpa [Occurrence.return?] using hreturned
  · have hsince : since request.correlation [.requested request] = [.requested request] := by
      simp [since, Occurrence.correlation?]
    unfold Unanswered
    rw [since_append_of_not_mem hnew, hsince]
    exact fun result hresult => absurd hresult List.not_mem_nil

/-- A request is new to a journal in which no two requests have one correlation in the end. -/
theorem new_of_nodup {request : TransferRequest}
    (hnodup : (correlations (journal ++ .requested request :: more)).Nodup) :
    request.correlation ∉ correlations journal := by
  rw [correlations, List.filterMap_append, List.nodup_append] at hnodup
  intro hold
  exact hnodup.2.2 _ hold _ List.mem_cons_self rfl

theorem nodup_of_append (hnodup : (correlations (journal ++ more)).Nodup) :
    (correlations journal).Nodup := by
  rw [correlations, List.filterMap_append] at hnodup
  exact hnodup.of_append_left

theorem named_append (journal more : List Occurrence) (correlation : Uuid) :
    named (journal ++ more) correlation = named journal correlation + named more correlation := by
  rw [named, completions, List.filterMap_append, List.countP_append]
  rfl

end Appending

end Journal

open Journal

/-! ## The list is as the journal says -/

namespace Books

/-- What is true of the list at every moment of a run. -/
structure Listed (b : Books) : Prop where
  known : ∀ {correlation pending}, b.pending.get? correlation = some pending →
    ∃ request, .requested request ∈ b.journal ∧ request.correlation = correlation ∧
      request.player = pending.player
  returned : ∀ {correlation sent}, (correlation, sent) ∈ returns b.journal →
    correlation ∈ correlations b.journal
  waiting : (correlations b.journal).Nodup → ∀ correlation,
    (b.pending.get? correlation).isSome ↔ Waiting b.journal correlation

theorem Listed.mem_correlations {b : Books} (h : b.Listed) {correlation : Uuid}
    (hpending : (b.pending.get? correlation).isSome) : correlation ∈ correlations b.journal := by
  obtain ⟨pending, hsome⟩ := Option.isSome_iff_exists.mp hpending
  obtain ⟨request, hrequest, rfl, -⟩ := h.known hsome
  exact List.mem_filterMap.mpr ⟨_, hrequest, rfl⟩

/-- Entries that make no request keep the list right if they take off it what they dismiss. -/
theorem Listed.extend {b b' : Books} (h : b.Listed) {entries : List Occurrence}
    (hjournal : b'.journal = b.journal ++ entries) (hnew : correlations entries = [])
    (hreturned : ∀ correlation sent, (correlation, sent) ∈ returns entries →
      correlation ∈ correlations b.journal)
    (hgone : ∀ correlation, Dismisses entries correlation → b'.pending.get? correlation = none)
    (hkept : ∀ correlation, ¬ Dismisses entries correlation →
      b'.pending.get? correlation = b.pending.get? correlation) : b'.Listed := by
  have hcorrelations : correlations b'.journal = correlations b.journal :=
    read_of_silent hjournal hnew
  have hreturns : returns b'.journal = returns b.journal ++ returns entries :=
    read_of_append hjournal
  refine ⟨?_, ?_, ?_⟩
  · intro correlation pending hpending
    have hstays : ¬ Dismisses entries correlation := by
      intro hdismissed
      rw [hgone correlation hdismissed] at hpending
      cases hpending
    rw [hkept correlation hstays] at hpending
    obtain ⟨request, hrequest, hfound⟩ := h.known hpending
    rw [hjournal]
    exact ⟨request, List.mem_append_left _ hrequest, hfound⟩
  · intro correlation sent hsent
    rw [hcorrelations]
    rw [hreturns] at hsent
    rcases List.mem_append.mp hsent with hsent | hsent
    · exact h.returned hsent
    · exact hreturned _ _ hsent
  · intro hnodup correlation
    rw [hcorrelations] at hnodup
    have hold : correlation ∉ correlations entries := by
      rw [hnew]
      exact List.not_mem_nil
    rw [hjournal, waiting_append hold, ← h.waiting hnodup correlation]
    by_cases hdismissed : Dismisses entries correlation
    · simp [hgone correlation hdismissed, hdismissed]
    · simp [hkept correlation hdismissed, hdismissed]

theorem Listed.initial {b : Books} (hpending : b.pending = .empty) (hjournal : b.journal = []) :
    b.Listed := by
  refine ⟨?_, ?_, ?_⟩
  · intro correlation pending h
    rw [hpending] at h
    cases h
  · intro correlation sent h
    rw [hjournal] at h
    cases h
  · intro _ correlation
    rw [hpending, hjournal]
    simp [Waiting]

/-- Entries that dismiss one request. -/
theorem Listed.dismiss {b b' : Books} (h : b.Listed) {entries : List Occurrence}
    {dismissed : Uuid} (hjournal : b'.journal = b.journal ++ entries)
    (hpending : b'.pending = b.pending.erase dismissed) (hnew : correlations entries = [])
    (hreturned : ∀ correlation sent, (correlation, sent) ∈ returns entries →
      correlation ∈ correlations b.journal)
    (hdismisses : ∀ correlation, Dismisses entries correlation ↔ correlation = dismissed) :
    b'.Listed := by
  refine h.extend hjournal hnew hreturned ?_ ?_
  · intro correlation hgone
    rw [hpending, Table.get?_erase, if_pos ((hdismisses correlation).mp hgone)]
  · intro correlation hstays
    rw [hpending, Table.get?_erase,
      if_neg fun hsame => hstays ((hdismisses correlation).mpr hsame)]

/-- Entries by which nothing is asked, answered or withdrawn. -/
theorem Listed.keep {b b' : Books} (h : b.Listed) {entries : List Occurrence}
    (hjournal : b'.journal = b.journal ++ entries) (hpending : b'.pending = b.pending)
    (hnew : correlations entries = []) (hresults : results entries = [])
    (hreturned : ∀ correlation sent, (correlation, sent) ∈ returns entries →
      correlation ∈ correlations b.journal ∧ sent = true) : b'.Listed := by
  have hstays : ∀ correlation, ¬ Dismisses entries correlation := by
    rintro correlation (hfailed | ⟨result, hresult, -⟩)
    · cases (hreturned _ _ hfailed).2
    · rw [hresults] at hresult
      cases hresult
  exact h.extend hjournal hnew (fun _ _ hsent => (hreturned _ _ hsent).1)
    (fun correlation hdismissed => absurd hdismissed (hstays correlation))
    (fun _ _ => by rw [hpending])

theorem Listed.idle {b b' : Books} (h : b.Listed) {entries : List Occurrence}
    (hjournal : b'.journal = b.journal ++ entries) (hpending : b'.pending = b.pending)
    (hnew : correlations entries = []) (hresults : results entries = [])
    (hreturns : returns entries = []) : b'.Listed := by
  apply h.keep hjournal hpending hnew hresults
  intro correlation sent hsent
  rw [hreturns] at hsent
  cases hsent

theorem Listed.known_append {b : Books} (h : b.Listed) (entries : List Occurrence)
    {correlation : Uuid} {pending : PendingTransfer}
    (hpending : b.pending.get? correlation = some pending) :
    ∃ request, .requested request ∈ b.journal ++ entries ∧ request.correlation = correlation ∧
      request.player = pending.player := by
  obtain ⟨request, hrequest, hfound⟩ := h.known hpending
  exact ⟨request, List.mem_append_left _ hrequest, hfound⟩

theorem Listed.ask {b : Books} (h : b.Listed) (request : TransferRequest)
    (startedAt : Millis) : (b.ask request startedAt).Listed := by
  have hjournal : (b.ask request startedAt).journal = b.journal ++ [.requested request] := rfl
  have hpending : ∀ correlation, (b.ask request startedAt).pending.get? correlation =
      if correlation = request.correlation then some ⟨startedAt, request.player⟩
      else b.pending.get? correlation := fun _ => Table.get?_insert ..
  refine ⟨?_, ?_, ?_⟩
  · intro correlation pending hfound
    rw [hpending] at hfound
    split at hfound
    · rename_i hsame
      cases hfound
      exact ⟨request, by simp [hjournal], hsame.symm, rfl⟩
    · exact h.known_append _ hfound
  · intro correlation sent hsent
    have hreturns : returns (b.ask request startedAt).journal = returns b.journal :=
      read_of_silent hjournal rfl
    have hcorrelations : correlations (b.ask request startedAt).journal =
        correlations b.journal ++ [request.correlation] := read_of_append hjournal
    rw [hreturns] at hsent
    rw [hcorrelations]
    exact List.mem_append_left _ (h.returned hsent)
  · intro hnodup correlation
    rw [hjournal] at hnodup ⊢
    rw [hpending]
    have hnew : request.correlation ∉ correlations b.journal := new_of_nodup hnodup
    by_cases hsame : correlation = request.correlation
    · subst hsame
      simp [waiting_concat hnew fun hfailed => hnew (h.returned hfailed)]
    · rw [if_neg hsame, waiting_append (by simpa [Occurrence.correlation?] using hsame),
        ← h.waiting (nodup_of_append hnodup)]
      simp [Dismisses, Occurrence.return?, Occurrence.result?]

theorem Listed.refuse {b : Books} (h : b.Listed) (request : TransferRequest) :
    (b.note [.requested request, .returned request.correlation false]).Listed := by
  refine ⟨fun hpending => h.known_append _ hpending, ?_, ?_⟩
  · intro correlation sent hsent
    simp only [note, returns, correlations, List.filterMap_append, List.mem_append] at hsent ⊢
    rcases hsent with hsent | hsent
    · exact .inl (h.returned hsent)
    · cases List.mem_singleton.mp hsent
      exact .inr (List.mem_singleton_self _)
  · intro hnodup correlation
    have hnew : request.correlation ∉ correlations b.journal := new_of_nodup hnodup
    dsimp only [note]
    by_cases hsame : correlation = request.correlation
    · subst hsame
      have hnone : ¬ (b.pending.get? request.correlation).isSome := fun hpending =>
        hnew (h.mem_correlations hpending)
      have hfailed : (request.correlation, false) ∈ returns (b.journal ++
          [.requested request, .returned request.correlation false]) := by
        simp [List.filterMap_cons, Occurrence.return?]
      exact ⟨fun hpending => absurd hpending hnone, fun hwaiting => absurd hfailed hwaiting.2.1⟩
    · rw [waiting_append, h.waiting (nodup_of_append hnodup)]
      · simp [Dismisses, List.filterMap_cons, Occurrence.return?, Occurrence.result?, hsame]
      · simpa [List.filterMap_cons, Occurrence.correlation?] using hsame

theorem Move.listed {b b' : Books} (move : Move b b') (h : b.Listed) : b'.Listed := by
  cases move with
  | refuse request => exact h.refuse request
  | request request startedAt => exact h.ask request startedAt
  | sent requested =>
      refine h.keep rfl rfl rfl rfl ?_
      intro correlation sent hsent
      cases List.mem_singleton.mp hsent
      exact ⟨requested, rfl⟩
  | withdraw requested =>
      rename_i withdrawn
      have hdismisses : ∀ correlation, Dismisses [.returned withdrawn false] correlation ↔
          correlation = withdrawn := by
        simp [Dismisses, List.filterMap_cons, Occurrence.return?, Occurrence.result?]
      refine h.dismiss rfl rfl rfl ?_ hdismisses
      intro correlation sent hsent
      cases List.mem_singleton.mp hsent
      exact requested
  | pass noResult noStatus =>
      exact h.idle rfl rfl rfl (by simp [Occurrence.result?, noResult]) rfl
  | settle read =>
      rename_i a result
      have hdismisses : ∀ correlation, Dismisses [.arrived a, .posted ⟨.transferCompleted,
          result.completion (b.pending.get? result.correlation) a.now⟩] correlation ↔
          correlation = result.correlation := by
        simp [Dismisses, List.filterMap_cons, Occurrence.return?, Occurrence.result?, read,
          eq_comm]
      exact h.dismiss rfl rfl rfl (fun _ _ hsent => absurd hsent List.not_mem_nil) hdismisses
  | hear read =>
      rename_i a notice
      obtain ⟨hcorrelations, hreturns, -⟩ := b.hearing_apart a notice
      exact h.idle rfl rfl hcorrelations (b.results_hearing read) hreturns
  | post noCompletion noChange => exact h.idle rfl rfl rfl rfl rfl
  | sight sighting => exact h.idle rfl rfl rfl rfl rfl

end Books

/-! ## What answers are announced by -/

/-- The answer that a completion is about. -/
def TransferCompleted.result (event : TransferCompleted) : TransferResult :=
  ⟨event.correlation, event.status, event.reason⟩

/-- If a completion names a player, that is the player of the request, and the time that it took
is given and not negative.  Otherwise no time is given. -/
def TransferCompleted.Justified (event : TransferCompleted) (journal : List Occurrence) : Prop :=
  match event.player with
  | none => event.latency = none
  | some player =>
      (∃ request, .requested request ∈ journal ∧ request.correlation = event.correlation ∧
        request.player = player) ∧ ∃ latency, event.latency = some latency ∧ 0 ≤ latency

theorem TransferCompleted.Justified.append {event : TransferCompleted} {journal : List Occurrence}
    (h : event.Justified journal) (entries : List Occurrence) :
    event.Justified (journal ++ entries) := by
  unfold Justified at h ⊢
  split
  · rename_i hplayer
    rw [hplayer] at h
    exact h
  · rename_i player hplayer
    rw [hplayer] at h
    obtain ⟨⟨request, hrequest, hfound⟩, hlatency⟩ := h
    exact ⟨⟨request, List.mem_append_left _ hrequest, hfound⟩, hlatency⟩

namespace Books

/-- How often the request is on the list. -/
def listed (b : Books) (correlation : Uuid) : Nat :=
  if (b.pending.get? correlation).isSome then 1 else 0

theorem listed_le_one (b : Books) (correlation : Uuid) : b.listed correlation ≤ 1 := by
  unfold listed
  split <;> omega

/-- What is true of the completions at every moment of a run. -/
structure Announced (b : Books) : Prop where
  told : (completions b.journal).map TransferCompleted.result = results b.journal
  justified : ∀ event ∈ completions b.journal, event.Justified b.journal
  bounded : ∀ correlation, named b.journal correlation + b.listed correlation ≤
    (correlations b.journal).count correlation
  resolved : ∀ correlation ∈ correlations b.journal, (correlation, false) ∈ returns b.journal ∨
    0 < named b.journal correlation + b.listed correlation

theorem Announced.initial {b : Books} (hpending : b.pending = .empty) (hjournal : b.journal = []) :
    b.Announced := by
  refine ⟨?_, ?_, ?_, ?_⟩
  · rw [hjournal]
    rfl
  · rw [hjournal]
    nofun
  · intro correlation
    rw [hjournal, listed, hpending]
    rfl
  · rw [hjournal]
    nofun

/-- Entries by which no answer is read or announced.  They may add to the list what they request,
and take off it what has failed. -/
theorem Announced.keep {b b' : Books} (h : b.Announced) {entries : List Occurrence}
    (hjournal : b'.journal = b.journal ++ entries) (hcompletions : completions entries = [])
    (hresults : results entries = [])
    (hlisted : ∀ correlation, b'.listed correlation ≤
      b.listed correlation + (correlations entries).count correlation)
    (hresolved : ∀ correlation, (correlation, false) ∈ returns entries ∨
      b.listed correlation ≤ b'.listed correlation ∧
        (correlation ∈ correlations entries → 0 < b'.listed correlation)) : b'.Announced := by
  have hsame : completions b'.journal = completions b.journal :=
    read_of_silent hjournal hcompletions
  have hnamed : ∀ correlation, named b'.journal correlation = named b.journal correlation :=
    fun correlation => by rw [named, hsame, named]
  have hcorrelations : correlations b'.journal =
      correlations b.journal ++ correlations entries := read_of_append hjournal
  have hreturns : returns b'.journal = returns b.journal ++ returns entries :=
    read_of_append hjournal
  refine ⟨?_, ?_, ?_, ?_⟩
  · rw [hsame, h.told]
    exact (read_of_silent hjournal hresults).symm
  · intro event hevent
    rw [hsame] at hevent
    rw [hjournal]
    exact (h.justified event hevent).append entries
  · intro correlation
    rw [hnamed, hcorrelations, List.count_append]
    have hbounded := h.bounded correlation
    have hgrown := hlisted correlation
    omega
  · intro correlation hmem
    rw [hnamed, hreturns]
    rw [hcorrelations] at hmem
    rcases hresolved correlation with hfailed | ⟨hstays, hnew⟩
    · exact .inl (List.mem_append_right _ hfailed)
    · rcases List.mem_append.mp hmem with hmem | hmem
      · rcases h.resolved correlation hmem with hfailed | hbefore
        · exact .inl (List.mem_append_left _ hfailed)
        · exact .inr (by omega)
      · have hlisted := hnew hmem
        exact .inr (by omega)

theorem justified_completion {b : Books} (h : b.Listed) (result : TransferResult) (now : Millis) :
    (result.completion (b.pending.get? result.correlation) now).Justified b.journal := by
  unfold TransferCompleted.Justified TransferResult.completion
  cases hpending : b.pending.get? result.correlation with
  | none => rfl
  | some pending =>
      obtain ⟨request, hrequest, hcorrelation, hplayer⟩ := h.known hpending
      exact ⟨⟨request, hrequest, hcorrelation, hplayer⟩, _, rfl, Millis.le_max_left 0 _⟩

theorem listed_of_erase {b b' : Books} {erased : Uuid} (h : b'.pending = b.pending.erase erased)
    (correlation : Uuid) :
    b'.listed correlation = if correlation = erased then 0 else b.listed correlation := by
  rw [listed, h, Table.get?_erase]
  split <;> rfl

/-- An answer takes its request off the list, and the completion names the player if it was on
it. -/
theorem named_settle (b : Books) (a : Arrival) (result : TransferResult) (correlation : Uuid) :
    named (b.settle a result).journal correlation + (b.settle a result).listed correlation =
      named b.journal correlation + b.listed correlation := by
  have hentries : named [.arrived a, .posted ⟨.transferCompleted,
      result.completion (b.pending.get? result.correlation) a.now⟩] correlation =
      if correlation = result.correlation then b.listed correlation else 0 := by
    by_cases hsame : correlation = result.correlation
    · subst hsame
      cases hpending : b.pending.get? result.correlation <;>
        simp [named, List.filterMap_cons, Occurrence.completion?, TransferResult.completion, listed,
          hpending]
    · simp [named, List.filterMap_cons, Occurrence.completion?, TransferResult.completion,
        Ne.symm hsame, hsame]
  have hlisted : (b.settle a result).listed correlation =
      if correlation = result.correlation then 0 else b.listed correlation :=
    listed_of_erase rfl correlation
  calc named (b.settle a result).journal correlation + (b.settle a result).listed correlation
      = named b.journal correlation + named [.arrived a, .posted ⟨.transferCompleted,
          result.completion (b.pending.get? result.correlation) a.now⟩] correlation +
          (b.settle a result).listed correlation := by
        rw [← named_append]
        rfl
    _ = named b.journal correlation + b.listed correlation := by
        rw [hentries, hlisted]
        split <;> omega

theorem Announced.settle {b : Books} (h : b.Announced) (hlisted : b.Listed) {a : Arrival}
    {result : TransferResult} (read : a.result? = some result) :
    (b.settle a result).Announced := by
  have hjournal : (b.settle a result).journal = b.journal ++ [.arrived a, .posted
      ⟨.transferCompleted, result.completion (b.pending.get? result.correlation) a.now⟩] := rfl
  have hcompletions : completions (b.settle a result).journal = completions b.journal ++
      [result.completion (b.pending.get? result.correlation) a.now] := read_of_append hjournal
  have hcorrelations : correlations (b.settle a result).journal = correlations b.journal :=
    read_of_silent hjournal rfl
  refine ⟨?_, ?_, ?_, ?_⟩
  · rw [hcompletions, List.map_append, h.told, hjournal]
    simp [List.filterMap_cons, Occurrence.result?, read]
    rfl
  · intro event hevent
    rw [hcompletions] at hevent
    rcases List.mem_append.mp hevent with hold | hnew
    · exact (h.justified event hold).append _
    · rw [List.mem_singleton.mp hnew]
      exact (justified_completion hlisted result a.now).append _
  · intro correlation
    rw [named_settle, hcorrelations]
    exact h.bounded correlation
  · intro correlation hmem
    rw [hcorrelations] at hmem
    have hreturns : returns (b.settle a result).journal = returns b.journal :=
      read_of_silent hjournal rfl
    rw [named_settle, hreturns]
    exact h.resolved correlation hmem

theorem listed_ask (b : Books) (request : TransferRequest) (startedAt : Millis)
    (correlation : Uuid) : (b.ask request startedAt).listed correlation =
      if correlation = request.correlation then 1 else b.listed correlation := by
  unfold listed ask
  dsimp only
  rw [Table.get?_insert]
  split <;> rfl

/-- Entries that have nothing to do with requests and answers. -/
theorem Announced.idle {b b' : Books} (h : b.Announced) {entries : List Occurrence}
    (hjournal : b'.journal = b.journal ++ entries) (hpending : b'.pending = b.pending)
    (hcompletions : completions entries = []) (hresults : results entries = [])
    (hcorrelations : correlations entries = []) : b'.Announced := by
  have hsame : ∀ correlation, b'.listed correlation = b.listed correlation := fun correlation => by
    rw [listed, hpending, listed]
  refine h.keep hjournal hcompletions hresults ?_ ?_
  · intro correlation
    rw [hsame]
    exact Nat.le_add_right _ _
  · intro correlation
    refine .inr ⟨(hsame correlation).ge, ?_⟩
    intro hmem
    rw [hcorrelations] at hmem
    cases hmem

theorem Move.announced {b b' : Books} (move : Move b b') (hlisted : b.Listed) (h : b.Announced) :
    b'.Announced := by
  cases move with
  | refuse request =>
      refine h.keep rfl rfl rfl (fun correlation => Nat.le_add_right _ _) ?_
      intro correlation
      by_cases hsame : correlation = request.correlation
      · left
        simp [hsame, List.filterMap_cons, Occurrence.return?]
      · right
        refine ⟨le_rfl, fun hmem => absurd hmem ?_⟩
        simpa [List.filterMap_cons, Occurrence.correlation?] using hsame
  | request request startedAt =>
      refine h.keep rfl rfl rfl ?_ ?_
      · intro correlation
        rw [listed_ask]
        split
        · rename_i hsame
          simp [hsame, Occurrence.correlation?]
        · omega
      · intro correlation
        right
        rw [listed_ask]
        split
        · exact ⟨b.listed_le_one correlation, fun _ => Nat.one_pos⟩
        · rename_i hother
          refine ⟨le_rfl, fun hmem => absurd hmem ?_⟩
          simpa [Occurrence.correlation?] using hother
  | sent requested => exact h.idle rfl rfl rfl rfl rfl
  | withdraw requested =>
      rename_i withdrawn
      have hlisted : ∀ correlation, (b.withdraw withdrawn).listed correlation =
          if correlation = withdrawn then 0 else b.listed correlation := listed_of_erase rfl
      refine h.keep rfl rfl rfl ?_ ?_
      · intro correlation
        rw [hlisted]
        split <;> omega
      · intro correlation
        by_cases hsame : correlation = withdrawn
        · left
          simp [hsame, Occurrence.return?]
        · right
          rw [hlisted, if_neg hsame]
          exact ⟨le_rfl, fun hmem => absurd hmem List.not_mem_nil⟩
  | pass noResult noStatus =>
      exact h.idle rfl rfl rfl (by simp [Occurrence.result?, noResult]) rfl
  | settle read => exact h.settle hlisted read
  | hear read =>
      rename_i a notice
      obtain ⟨hcorrelations, -, hcompletions⟩ := b.hearing_apart a notice
      exact h.idle rfl rfl hcompletions (b.results_hearing read) hcorrelations
  | post noCompletion noChange =>
      have hnone := Occurrence.completion?_posted noCompletion
      exact h.idle rfl rfl (by simp [hnone]) rfl rfl
  | sight sighting => exact h.idle rfl rfl rfl rfl rfl

theorem Course.announced {b b' : Books} (h : Course b b') (hlisted : b.Listed)
    (hannounced : b.Announced) : b'.Listed ∧ b'.Announced := by
  obtain ⟨hmoves, -⟩ := h
  induction hmoves with
  | refl => exact ⟨hlisted, hannounced⟩
  | tail _ move ih => exact ⟨move.listed ih.1, move.announced ih.1 ih.2⟩

end Books

/-! ## Whole runs -/

namespace Journal

section Settled

variable {journal : List Occurrence} (hdistinct : (correlations journal).Nodup)
  (hsettled : ((returns journal).map Prod.fst).Perm (correlations journal))

include hdistinct hsettled

/-- No request returns twice. -/
theorem not_failed_of_sent {correlation : Uuid} (hsent : (correlation, true) ∈ returns journal) :
    (correlation, false) ∉ returns journal := by
  intro hfailed
  have hsame := List.inj_on_of_nodup_map (hsettled.nodup_iff.mpr hdistinct) hsent hfailed rfl
  cases hsame

/-- When every call has returned, what is waited for is owed. -/
theorem waiting_iff_owed (correlation : Uuid) :
    Waiting journal correlation ↔ Owed journal correlation := by
  constructor
  · rintro ⟨hrequested, hkept, hunanswered⟩
    obtain ⟨⟨returned, sent⟩, hsent, rfl⟩ := List.mem_map.mp (hsettled.mem_iff.mpr hrequested)
    cases sent with
    | false => exact absurd hsent hkept
    | true => exact ⟨hsent, hunanswered⟩
  · rintro ⟨hsent, hunanswered⟩
    have hrequested : correlation ∈ correlations journal :=
      hsettled.mem_iff.mp (List.mem_map.mpr ⟨_, hsent, rfl⟩)
    exact ⟨hrequested, not_failed_of_sent hdistinct hsettled hsent, hunanswered⟩

end Settled

/-- The list of pending transfers, and what was announced, are as the journal wants them: the
list has as many entries as there are requests that were sent and are owed an answer, and none for
a request that failed; every answer that was read was announced once, in order; no two
completions of one request name a player, and if a request that was sent is not owed an answer any
more then one completion does; and what completions say of player and time is justified. -/
structure Tracks (journal : List Occurrence) (pending : Table Uuid PendingTransfer) : Prop where
  size : pending.size = (correlations journal).countP fun correlation => Owed journal correlation
  failed : ∀ correlation, (correlation, false) ∈ returns journal →
    pending.get? correlation = none
  told : (completions journal).map TransferCompleted.result = results journal
  once : ∀ correlation, named journal correlation ≤ 1
  answered : ∀ correlation, (correlation, true) ∈ returns journal → ¬ Owed journal correlation →
    named journal correlation = 1
  justified : ∀ event ∈ completions journal, event.Justified journal

end Journal

theorem Books.Listed.size_pending {b : Books} (h : b.Listed)
    (hdistinct : (correlations b.journal).Nodup)
    (hsettled : ((returns b.journal).map Prod.fst).Perm (correlations b.journal)) :
    b.pending.size = (correlations b.journal).countP fun correlation =>
      Owed b.journal correlation := by
  have hkeys : b.pending.keySet = ((correlations b.journal).filter fun correlation =>
      Owed b.journal correlation).toFinset := by
    ext correlation
    have howed : (b.pending.get? correlation).isSome ↔ Owed b.journal correlation :=
      (h.waiting hdistinct correlation).trans (waiting_iff_owed hdistinct hsettled correlation)
    rw [Table.mem_keySet, ← Option.isSome_iff_exists, List.mem_toFinset, List.mem_filter,
      decide_eq_true_eq, ← howed]
    exact ⟨fun hpending => ⟨h.mem_correlations hpending, hpending⟩, And.right⟩
  rw [← Table.card_keySet, hkeys, List.toFinset_card_of_nodup (hdistinct.filter _),
    List.countP_eq_length_filter]

/-- **Pending transfers are tracked exactly.**  Start with a control side that has just been
started, and make requests with different correlations and handle packets as you like, one call
within another: what is pending, and what was announced, is what the journal wants. -/
theorem PlaneRun.tracks_pending {σ : Type} {slot : Slot σ RecordedPlane} {s s' : σ}
    (h : PlaneRun slot s s') (hfresh : (slot.get s).Fresh)
    (hdistinct : (correlations (slot.get s').journal).Nodup) :
    Tracks (slot.get s').journal (slot.get s').plane.pending := by
  obtain ⟨hlisted, hannounced⟩ := h.course.announced
    (.initial hfresh.pending hfresh.journal) (.initial hfresh.pending hfresh.journal)
  have hsettled : ((returns (slot.get s').journal).map Prod.fst).Perm
      (correlations (slot.get s').journal) := by
    obtain ⟨-, entries, hjournal, hperm⟩ := h.course
    have hempty : (booksAt slot s).journal = [] := hfresh.journal
    rw [hempty, List.nil_append] at hjournal
    rwa [← hjournal] at hperm
  have hopen : ∀ correlation, ((slot.get s').plane.pending.get? correlation).isSome ↔
      Owed (slot.get s').journal correlation := fun correlation =>
    (hlisted.waiting hdistinct correlation).trans (waiting_iff_owed hdistinct hsettled correlation)
  have honce : ∀ correlation, named (slot.get s').journal correlation +
      (booksAt slot s').listed correlation ≤ 1 := fun correlation =>
    (hannounced.bounded correlation).trans (List.nodup_iff_count_le_one.mp hdistinct correlation)
  refine ⟨hlisted.size_pending hdistinct hsettled, ?_, hannounced.told, ?_, ?_,
    hannounced.justified⟩
  · intro correlation hfailed
    rw [← Option.not_isSome_iff_eq_none, hopen]
    rintro ⟨hsent, -⟩
    exact not_failed_of_sent hdistinct hsettled hsent hfailed
  · intro correlation
    have hbounded := honce correlation
    omega
  · intro correlation hsent hanswered
    have hrequested : correlation ∈ correlations (slot.get s').journal :=
      hlisted.returned hsent
    have hgone : (booksAt slot s').listed correlation = 0 :=
      if_neg fun hpending => hanswered ((hopen correlation).mp hpending)
    have hbounded := honce correlation
    rcases hannounced.resolved correlation hrequested with hfailed | hpositive
    · exact absurd hfailed (not_failed_of_sent hdistinct hsettled hsent)
    · have hnamed : 0 < named (slot.get s').journal correlation := by
        rw [hgone] at hpositive
        exact hpositive
      omega

namespace Alone

/-- A request to take the visitor to the arena. -/
def arenaTrip (number : Nat) : TransferRequest := ⟨.ofNat number, visitor, "arena", [7]⟩

/-- The lobby answers the request. -/
def answer (number nonce : Nat) : PlaneCall :=
  lobbySends .transferResult nonce 0 (TransferResult.encode ⟨.ofNat number, .ok, none⟩)

/-- The first request is answered while it is being sent, the second one cannot be sent, the third
one is not answered, and the first one is answered once more. -/
def busy : Alone RecordedPlane :=
  let s := PlaneCall.perform (noting fun s => (.ok (), (answer 1 1).perform unheard slot s)) slot
    (.request (arenaTrip 1)) listening
  let s := PlaneCall.perform (noting fun s => (.error .noPeer, s)) slot (.request (arenaTrip 2)) s
  let s := PlaneCall.perform unheard slot (.request (arenaTrip 3)) s
  (answer 1 2).perform unheard slot s

theorem run_busy : PlaneRun slot listening busy :=
  run_noting (fun _ => run_unheard (answer 1 1) (.done _)) (.request (arenaTrip 1))
    (run_noting (fun _ => .done _) (.request (arenaTrip 2))
      (run_unheard (.request (arenaTrip 3)) (run_unheard (answer 1 2) (.done _))))

theorem tracks_pending_busy : Tracks busy.part.journal busy.part.plane.pending ∧
    busy.part.plane.pending.size = 1 ∧ (completions busy.part.journal).length = 2 ∧
    named busy.part.journal (.ofNat 1) = 1 :=
  ⟨run_busy.tracks_pending fresh_listening (by decide +kernel), by decide +kernel,
    by decide +kernel, by decide +kernel⟩

end Alone

end GameGateway
