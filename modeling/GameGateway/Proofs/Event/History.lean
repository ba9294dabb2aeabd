import GameGateway.Event.Activity
import GameGateway.Proofs.Event.Delivery

/-!
# The history of a bus

Observers come, go and get events in any order, and what they do when they get one is part of
the history: `Bus.Run` lets calls be nested in the posting of an event to any depth.  The log
of a run lists the calls in the order in which they begin.

The bus is at all times what the log tells (`Bus.Reflects`): registered are those that have
been and have not been taken out since.  One call keeps that (`Reflects.register` and its
siblings), so a run does, and from there every call in the log can be explained by those
before it (`Bus.delivery_exact`).
-/

namespace GameGateway.Bus

variable {κ ω σ : Type} [DecidableEq κ] {ε : κ → Type}

/-! ## Runs -/

/-- An event that is posted, the state in which that is done, and what observers do with it. -/
structure Post (κ ω σ : Type) (ε : κ → Type) where
  kind : κ
  run : ω → ε kind → σ → Completion × ε kind × σ
  event : ε kind
  start : σ

/-- A call to the bus with what came back. -/
inductive Happening (κ ω σ : Type) (ε : κ → Type) where
  | registered (r : Registration κ ω)
  | unregistered (s : Subscription κ) (removed : Bool)
  | posted (post : Post κ ω σ ε)

/-- The event and the state as a post leaves them. -/
def Post.result (slot : Slot σ (Bus κ ω)) (cancelled : (kind : κ) → ε kind → Bool)
    (p : Post κ ω σ ε) : ε p.kind × σ :=
  post slot (cancelled p.kind) p.run p.kind p.event p.start

/-- The registration that a bus makes for an observer. -/
def registration (bus : Bus κ ω) (kind : κ) (options : ObserverOptions) (observer : ω) :
    Registration κ ω :=
  ⟨(bus.register kind options observer).1.id, kind, options, observer⟩

/-- From the first state calls to the bus lead to the second one.  While an event is posted
the observers call the bus as well, and between calls the rest of the state may change. -/
inductive Run (slot : Slot σ (Bus κ ω)) (cancelled : (kind : κ) → ε kind → Bool) :
    σ → List (Happening κ ω σ ε) → σ → Prop
  | done (s : σ) : Run slot cancelled s [] s
  | elsewhere {s s' s'' : σ} {log : List (Happening κ ω σ ε)}
      (untouched : slot.get s' = slot.get s) (rest : Run slot cancelled s' log s'') :
      Run slot cancelled s log s''
  | register (kind : κ) (options : ObserverOptions) (observer : ω) {s s' : σ}
      {log : List (Happening κ ω σ ε)}
      (rest : Run slot cancelled
        (slot.modify (fun bus => (bus.register kind options observer).2) s) log s') :
      Run slot cancelled s
        (.registered ((slot.get s).registration kind options observer) :: log) s'
  | unregister (subscription : Subscription κ) {s s' : σ} {log : List (Happening κ ω σ ε)}
      (rest : Run slot cancelled
        (slot.modify (fun bus => (bus.unregister subscription).2) s) log s') :
      Run slot cancelled s
        (.unregistered subscription ((slot.get s).unregister subscription).1 :: log) s'
  | post (p : Post κ ω σ ε) {inner log : List (Happening κ ω σ ε)} {s' : σ}
      (nested : Run slot cancelled p.start inner (p.result slot cancelled).2)
      (rest : Run slot cancelled (p.result slot cancelled).2 log s') :
      Run slot cancelled p.start (.posted p :: (inner ++ log)) s'

variable {slot : Slot σ (Bus κ ω)} {cancelled : (kind : κ) → ε kind → Bool} {s s' : σ}
  {past log : List (Happening κ ω σ ε)} {bus : Bus κ ω} {r : Registration κ ω}

theorem Run.append {s'' : σ} {more : List (Happening κ ω σ ε)} (h : Run slot cancelled s log s')
    (h' : Run slot cancelled s' more s'') : Run slot cancelled s (log ++ more) s'' := by
  induction h with
  | done s => exact h'
  | elsewhere untouched rest ih => exact .elsewhere untouched (ih h')
  | register kind options observer rest ih => exact .register kind options observer (ih h')
  | unregister subscription rest ih => exact .unregister subscription (ih h')
  | post p nested rest ihNested ihRest =>
      rw [List.cons_append, List.append_assoc]
      exact .post p nested (ihRest h')

/-! ## What the log tells -/

/-- Registered in the past and not taken out since. -/
def Stands (past : List (Happening κ ω σ ε)) (r : Registration κ ω) : Prop :=
  .registered r ∈ past ∧ .unregistered r.subscription true ∉ past

/-- The bus is what the log tells. -/
structure Reflects (bus : Bus κ ω) (past : List (Happening κ ω σ ε)) : Prop where
  mem_iff : ∀ r, r ∈ bus.registrations ↔ Stands past r
  ordered : bus.registrations.Pairwise Registration.Precedes
  fresh : ∀ r, .registered r ∈ past → r.id < bus.nextId
  gone : ∀ subscription, .unregistered subscription true ∈ past → subscription.id < bus.nextId

omit [DecidableEq κ] in
theorem reflects_empty : Reflects {} ([] : List (Happening κ ω σ ε)) where
  mem_iff r := by simp [Stands]
  ordered := List.Pairwise.nil
  fresh r h := nomatch h
  gone subscription h := nomatch h

theorem matchesRegistration_iff {subscription : Subscription κ} :
    matchesRegistration subscription r = true ↔ r.subscription = subscription := by
  obtain ⟨kind, id⟩ := subscription
  simp [matchesRegistration, Registration.subscription]

theorem unregister_fst_iff {subscription : Subscription κ} :
    (bus.unregister subscription).1 = true ↔
      ∃ r ∈ bus.registrations, r.subscription = subscription := by
  simp only [unregister, List.any_eq_true, matchesRegistration_iff]

theorem mem_unregister {subscription : Subscription κ} :
    r ∈ (bus.unregister subscription).2.registrations ↔
      r ∈ bus.registrations ∧ r.subscription ≠ subscription := by
  rw [ne_eq, ← matchesRegistration_iff]
  simp [unregister]

namespace Reflects

omit [DecidableEq κ] in
theorem register (h : Reflects bus past) (kind : κ) (options : ObserverOptions) (observer : ω) :
    Reflects (bus.register kind options observer).2
      (past ++ [.registered (bus.registration kind options observer)]) where
  mem_iff r := by
    have hfresh : .unregistered (bus.registration kind options observer).subscription true ∉ past :=
      fun hgone => Nat.lt_irrefl _ (h.gone _ hgone)
    change r ∈ place (bus.registration kind options observer) bus.registrations ↔ _
    rw [mem_place, h.mem_iff]
    unfold Stands
    constructor
    · rintro (rfl | ⟨hregistered, hstays⟩)
      · simpa using hfresh
      · simpa [hregistered] using hstays
    · rintro ⟨hregistered, hstays⟩
      have hstays : .unregistered r.subscription true ∉ past := by simpa using hstays
      rcases List.mem_append.mp hregistered with hregistered | hnew
      · exact .inr ⟨hregistered, hstays⟩
      · exact .inl (by simpa using hnew)
  ordered := pairwise_place h.ordered fun old hold => h.fresh old ((h.mem_iff old).mp hold).1
  fresh r hr := by
    rcases List.mem_append.mp hr with hr | hr
    · exact Nat.lt_succ_of_lt (h.fresh r hr)
    · obtain rfl : r = bus.registration kind options observer := by simpa using hr
      exact Nat.lt_succ_self _
  gone subscription hgone := by
    have hgone : .unregistered subscription true ∈ past := by simpa using hgone
    exact Nat.lt_succ_of_lt (h.gone _ hgone)

theorem unregister (h : Reflects bus past) (subscription : Subscription κ) :
    Reflects (bus.unregister subscription).2
      (past ++ [.unregistered subscription (bus.unregister subscription).1]) where
  mem_iff r := by
    rw [mem_unregister, h.mem_iff]
    unfold Stands
    constructor
    · rintro ⟨⟨hregistered, hstays⟩, hother⟩
      simp [hregistered, hstays, hother]
    · rintro ⟨hregistered, hstays⟩
      simp only [List.mem_append, List.mem_singleton, not_or, reduceCtorEq, or_false]
        at hregistered hstays
      refine ⟨⟨hregistered, hstays.1⟩, ?_⟩
      rintro rfl
      refine hstays.2 (congrArg (Happening.unregistered _) ?_)
      exact (unregister_fst_iff.mpr ⟨r, (h.mem_iff r).mpr ⟨hregistered, hstays.1⟩, rfl⟩).symm
  ordered := h.ordered.filter _
  fresh r hr := h.fresh r (by simpa using hr)
  gone other hother := by
    rcases List.mem_append.mp hother with hother | hother
    · exact h.gone other hother
    · obtain ⟨rfl, hremoved⟩ : other = subscription ∧ true = (bus.unregister subscription).1 := by
        simpa using hother
      obtain ⟨r, hr, rfl⟩ := unregister_fst_iff.mp hremoved.symm
      exact h.fresh r ((h.mem_iff r).mp hr).1

omit [DecidableEq κ] in
theorem posted (h : Reflects bus past) (p : Post κ ω σ ε) : Reflects bus (past ++ [.posted p]) where
  mem_iff r := by
    rw [h.mem_iff]
    simp [Stands]
  ordered := h.ordered
  fresh r hr := h.fresh r (by simpa using hr)
  gone subscription hgone := h.gone subscription (by simpa using hgone)

end Reflects

/-! ## Every call is explained by those before it -/

/-- A post takes one turn for each observer of its kind that stands when it begins, in their
order, and nothing but these turns makes its result; how the observers come to their ends does
not count. -/
structure Post.Delivered (slot : Slot σ (Bus κ ω)) (cancelled : (kind : κ) → ε kind → Bool)
    (past : List (Happening κ ω σ ε)) (p : Post κ ω σ ε) : Prop where
  turns : ∃ turns : List (Turn κ ω (ε p.kind × σ)),
    (∀ r, r ∈ turns.map Turn.registration ↔ Stands past r ∧ r.kind = p.kind) ∧
    (turns.map Turn.registration).Pairwise Registration.Precedes ∧
    Linked (p.event, p.start) turns (p.result slot cancelled) ∧
    ∀ turn ∈ turns, turn.Fair (cancelled p.kind) p.run
  completions : ∀ run', (∀ o e s, (run' o e s).2 = (p.run o e s).2) →
    Bus.post slot (cancelled p.kind) run' p.kind p.event p.start = p.result slot cancelled

/-- What the calls before it say about a call. -/
def Explained (slot : Slot σ (Bus κ ω)) (cancelled : (kind : κ) → ε kind → Bool)
    (past : List (Happening κ ω σ ε)) : Happening κ ω σ ε → Prop
  | .registered r => ∀ old, .registered old ∈ past → old.id < r.id
  | .unregistered subscription removed => removed = true ↔
      (∃ r, .registered r ∈ past ∧ r.subscription = subscription) ∧
        .unregistered subscription true ∉ past
  | .posted p => p.Delivered slot cancelled past

theorem Reflects.delivered {p : Post κ ω σ ε} (h : Reflects (slot.get p.start) past) :
    p.Delivered slot cancelled past where
  turns := by
    obtain ⟨turns, hmap, hlinked, hfair⟩ := exists_turns (cancelled p.kind) p.run
      ((slot.get p.start).observers p.kind) p.event p.start
    refine ⟨turns, fun r => ?_, ?_, hlinked, hfair⟩
    · rw [hmap, ← h.mem_iff]
      simp [observers]
    · rw [hmap]
      exact h.ordered.filter _
  completions run' hrun' := deliver_congr hrun' _ _ _

theorem Reflects.explained_unregister (h : Reflects bus past) (subscription : Subscription κ) :
    Explained slot cancelled past
      (.unregistered subscription (bus.unregister subscription).1) := by
  change (bus.unregister subscription).1 = true ↔ _
  rw [unregister_fst_iff]
  constructor
  · rintro ⟨r, hr, rfl⟩
    obtain ⟨hregistered, hstays⟩ := (h.mem_iff r).mp hr
    exact ⟨⟨r, hregistered, rfl⟩, hstays⟩
  · rintro ⟨⟨r, hregistered, rfl⟩, hstays⟩
    exact ⟨r, (h.mem_iff r).mpr ⟨hregistered, hstays⟩, rfl⟩

/-- Every call in the log is explained by those before it. -/
def AllExplained (slot : Slot σ (Bus κ ω)) (cancelled : (kind : κ) → ε kind → Bool)
    (past log : List (Happening κ ω σ ε)) : Prop :=
  ∀ before h after, log = before ++ h :: after → Explained slot cancelled (past ++ before) h

theorem allExplained_nil : AllExplained slot cancelled past [] := by
  intro before h after hlog
  simp at hlog

theorem AllExplained.cons {h : Happening κ ω σ ε} (hfirst : Explained slot cancelled past h)
    (hrest : AllExplained slot cancelled (past ++ [h]) log) :
    AllExplained slot cancelled past (h :: log) := by
  intro before other after hlog
  cases before with
  | nil =>
      obtain ⟨rfl, rfl⟩ := List.cons.inj hlog
      rwa [List.append_nil]
  | cons first before =>
      obtain ⟨rfl, rfl⟩ := List.cons.inj hlog
      have hother := hrest before other after rfl
      rwa [List.append_assoc] at hother

theorem AllExplained.append {more : List (Happening κ ω σ ε)}
    (hlog : AllExplained slot cancelled past log)
    (hmore : AllExplained slot cancelled (past ++ log) more) :
    AllExplained slot cancelled past (log ++ more) := by
  induction log generalizing past with
  | nil => rwa [List.append_nil] at hmore
  | cons first rest ih =>
      have hfirst : Explained slot cancelled past first := by
        simpa using hlog [] first rest rfl
      refine AllExplained.cons hfirst (ih ?_ ?_)
      · intro before h after hrest
        have h := hlog (first :: before) h after (by rw [hrest, List.cons_append])
        rwa [List.append_assoc]
      · rwa [List.append_assoc]

/-- The run lemma: a bus that is what the past tells is afterwards what past and log tell, and
the calls of the run are explained. -/
theorem Run.explained (hrun : Run slot cancelled s log s') (h : Reflects (slot.get s) past) :
    Reflects (slot.get s') (past ++ log) ∧ AllExplained slot cancelled past log := by
  induction hrun generalizing past with
  | done s =>
      rw [List.append_nil]
      exact ⟨h, allExplained_nil⟩
  | elsewhere untouched rest ih =>
      rw [← untouched] at h
      exact ih h
  | register kind options observer rest ih =>
      obtain ⟨hafter, hrest⟩ := ih (by
        rw [Slot.get_modify]
        exact h.register kind options observer)
      rw [List.append_assoc] at hafter
      exact ⟨hafter, .cons h.fresh hrest⟩
  | unregister subscription rest ih =>
      obtain ⟨hafter, hrest⟩ := ih (by
        rw [Slot.get_modify]
        exact h.unregister subscription)
      rw [List.append_assoc] at hafter
      exact ⟨hafter, .cons (h.explained_unregister subscription) hrest⟩
  | post p nested rest ihNested ihRest =>
      obtain ⟨hbetween, hinner⟩ := ihNested (h.posted p)
      obtain ⟨hafter, hrest⟩ := ihRest hbetween
      rw [List.append_assoc, List.append_assoc] at hafter
      exact ⟨hafter, .cons h.delivered (hinner.append hrest)⟩

theorem Run.explained_of_empty (hempty : slot.get s = {}) (hrun : Run slot cancelled s log s') :
    Reflects (slot.get s') log ∧ AllExplained slot cancelled [] log := by
  have hstart : Reflects (slot.get s) ([] : List (Happening κ ω σ ε)) := by
    rw [hempty]
    exact reflects_empty
  exact hrun.explained hstart

/-! ## Whatever activities do is a run -/

section Activities

variable {η μ : Type} {unwanted : κ → η → Bool}

/-- The state can be reached by calls to the bus. -/
def Reachable (unwanted : κ → η → Bool) (s s' : Activity.Stage κ η μ) : Prop :=
  ∃ log : List (Happening κ (Activity κ η μ) (Activity.Stage κ η μ) fun _ => η),
    Run Slot.first unwanted s log s'

theorem Reachable.refl (s : Activity.Stage κ η μ) : Reachable unwanted s s := ⟨[], .done s⟩

theorem Reachable.trans {s s' s'' : Activity.Stage κ η μ} (h : Reachable unwanted s s')
    (h' : Reachable unwanted s' s'') : Reachable unwanted s s'' := by
  obtain ⟨log, hlog⟩ := h
  obtain ⟨more, hmore⟩ := h'
  exact ⟨log ++ more, hlog.append hmore⟩

/-- An activity calls the bus and does nothing else to it, as long as this holds of the way in
which it posts further events. -/
theorem reachable_run {postFurther : κ → η → Activity.Stage κ η μ → η × Activity.Stage κ η μ}
    (hpost : ∀ kind event s, Reachable unwanted s (postFurther kind event s).2)
    (activity : Activity κ η μ) (event : η) (s : Activity.Stage κ η μ) :
    Reachable unwanted s (activity.run postFurther event s).2.2 := by
  induction activity generalizing event s with
  | finish completion => exact .refl s
  | inspect next ih => exact ih event event s
  | alter f next ih => exact ih (f event) s
  | consult next ih => exact ih s.2 event s
  | note f next ih =>
      obtain ⟨log, hlog⟩ := ih event (s.1, f s.2)
      have hsame : Slot.first.get (s.1, f s.2) = Slot.first.get s := rfl
      exact ⟨log, .elsewhere hsame hlog⟩
  | register kind options observer next ihObserver ih =>
      obtain ⟨log, hlog⟩ := ih _ event ((s.1.register kind options observer).2, s.2)
      exact ⟨_, .register kind options observer hlog⟩
  | unregister subscription next ih =>
      obtain ⟨log, hlog⟩ := ih _ event ((s.1.unregister subscription).2, s.2)
      exact ⟨_, .unregister subscription hlog⟩
  | post kind further next ih => exact (hpost kind further s).trans (ih _ event _)

/-- Posting to activities is a run of the bus, with the calls of the activities nested in it as
deep as the fuel allows. -/
theorem reachable_posting (fuel : Nat) (kind : κ) (event : η) (s : Activity.Stage κ η μ) :
    Reachable unwanted s (Activity.posting unwanted fuel kind event s).2 := by
  induction fuel generalizing kind event s with
  | zero => exact .refl s
  | succ fuel ih =>
      let p : Post κ (Activity κ η μ) (Activity.Stage κ η μ) fun _ => η :=
        ⟨kind, Activity.run (Activity.posting unwanted fuel), event, s⟩
      have hnested : Reachable unwanted s (p.result Slot.first unwanted).2 :=
        deliver_induction (P := fun x => Reachable unwanted s x.2)
          (fun r _ e s' h => h.trans (reachable_run ih r.observer e s')) (.refl s)
      obtain ⟨inner, hinner⟩ := hnested
      exact ⟨_, .post p hinner (.done _)⟩

end Activities

/-- **Delivery is exact.**  On a bus that was empty at first, and however calls are nested in
one another: registrations are numbered in their order; a subscription is found exactly if it
was given out and has not been found before, and only its observer goes; and an event takes
one turn for each observer of its kind that stands when it is posted, by priority and then by
registration, in which the observer is called unless the event is cancelled and it does not
want such events.  Observers that fail or panic are no exception. -/
theorem delivery_exact (hempty : slot.get s = {}) (hrun : Run slot cancelled s log s') :
    ∀ before h after, log = before ++ h :: after → Explained slot cancelled before h :=
  (hrun.explained_of_empty hempty).2

def idler : Activity Bool Nat (List Nat) := .finish .done

/-- Lets an observer in, cancels the event and panics. -/
def breaker : Activity Bool Nat (List Nat) :=
  .register true ⟨.lowest, false⟩ idler fun _ => .alter (fun _ => 13) (.finish .panicked)

/-- Takes out the observer that was registered second, and fails. -/
def remover : Activity Bool Nat (List Nat) :=
  .unregister ⟨true, 1⟩ fun _ => .finish .failed

def counter : Activity Bool Nat (List Nat) := .alter (· + 1) (.finish .done)

def unlucky (_ : Bool) (event : Nat) : Bool := event = 13

/-- The observers of a quarrel in the order in which they get an event: one that takes another
out, one that cancels the event, one that is passed over because of that, and the one that was
taken out, which still gets what is left of this event. -/
def quarrellers : List (Registration Bool (Activity Bool Nat (List Nat))) :=
  [⟨3, true, ⟨.low, false⟩, remover⟩, ⟨0, true, ⟨.normal, false⟩, breaker⟩,
    ⟨2, true, ⟨.high, false⟩, counter⟩, ⟨1, true, ⟨.highest, true⟩, counter⟩]

def quarrel : Post Bool (Activity Bool Nat (List Nat)) (Activity.Stage Bool Nat (List Nat))
    (fun _ => Nat) where
  kind := true
  run := Activity.run (Activity.posting unlucky 0)
  event := 0
  start := (⟨quarrellers, 4⟩, [])

def quarrelLog : List (Happening Bool (Activity Bool Nat (List Nat))
    (Activity.Stage Bool Nat (List Nat)) (fun _ => Nat)) :=
  [.registered ⟨0, true, ⟨.normal, false⟩, breaker⟩,
    .registered ⟨1, true, ⟨.highest, true⟩, counter⟩,
    .registered ⟨2, true, ⟨.high, false⟩, counter⟩,
    .registered ⟨3, true, ⟨.low, false⟩, remover⟩,
    .posted quarrel, .unregistered ⟨true, 1⟩ true,
    .registered ⟨4, true, ⟨.lowest, false⟩, idler⟩, .unregistered ⟨true, 1⟩ false]

theorem run_quarrel :
    Run Slot.first unlucky ({}, []) quarrelLog (quarrel.result Slot.first unlucky).2 := by
  have hnested : Run Slot.first unlucky quarrel.start
      [.unregistered ⟨true, 1⟩ true, .registered ⟨4, true, ⟨.lowest, false⟩, idler⟩]
      (quarrel.result Slot.first unlucky).2 :=
    .unregister ⟨true, 1⟩ <| .register true ⟨.lowest, false⟩ idler <| .done _
  have hposted : Run Slot.first unlucky quarrel.start _ _ :=
    .post quarrel hnested <| .unregister ⟨true, 1⟩ <| .done _
  exact .register true ⟨.normal, false⟩ breaker <| .register true ⟨.highest, true⟩ counter <|
    .register true ⟨.high, false⟩ counter <| .register true ⟨.low, false⟩ remover hposted

theorem delivery_exact_quarrel :
    (quarrel.result Slot.first unlucky).1 = 14 ∧
      ∀ before h after, quarrelLog = before ++ h :: after →
        Explained Slot.first unlucky before h :=
  ⟨rfl, delivery_exact rfl run_quarrel⟩

end GameGateway.Bus
