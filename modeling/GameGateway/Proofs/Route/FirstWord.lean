import GameGateway.Proofs.Chains
import GameGateway.Proofs.Event.History
import GameGateway.Rehearsal.Routing

/-!
# The first word counts

Observers that are asked about a connection speak to the decision: they suggest a backend or
deny the connection, any number of them and each as often as it likes.  A word that comes too
late is refused and changes nothing, so only the first one is left of all of them
(`RoutingDecision.foldl_hear`).  Which one is the first is up to the order in which the bus
asks; the history of the bus gives that (`Bus.Run.explained`), and one link after the other
the words of all turns are one list (`decision_of_linked`).

What the router makes of the first word is told apart by its errors and reasons: no strategy
denies a connection, names an unknown backend or gives the reason of an observer
(`Router.unasked_cases`).
-/

namespace GameGateway

/-! ## Words -/

/-- What an observer may say about a connection. -/
inductive Word where
  | suggest (backend : String)
  | deny (reason : String)
deriving DecidableEq

namespace RoutingDecision

/-- The decision after a word; a word that is refused leaves it alone. -/
def hear (decision : RoutingDecision) : Word → RoutingDecision
  | .suggest backend => (decision.suggest backend).toOption.getD decision
  | .deny reason => (decision.deny reason).toOption.getD decision

/-- The decision when the first word is known. -/
def ofFirst : Option Word → RoutingDecision
  | none => undecided
  | some (.suggest backend) => suggested backend
  | some (.deny reason) => denied reason

variable {decision : RoutingDecision}

theorem hear_of_ne (h : decision ≠ undecided) (word : Word) : decision.hear word = decision := by
  have hdecided : decision.isDecided = true := by simpa [isDecided] using h
  cases word with
  | suggest backend => simp [hear, suggest, hdecided, Except.toOption]
  | deny reason => simp [hear, deny, hdecided, Except.toOption]

theorem hear_undecided (word : Word) : undecided.hear word = ofFirst (some word) := by
  cases word with
  | suggest backend => rfl
  | deny reason => rfl

theorem ofFirst_some_ne (word : Word) : ofFirst (some word) ≠ undecided := by
  cases word with
  | suggest backend => nofun
  | deny reason => nofun

theorem foldl_hear_of_ne (h : decision ≠ undecided) (words : List Word) :
    words.foldl hear decision = decision := by
  induction words with
  | nil => rfl
  | cons word rest ih => rw [List.foldl_cons, hear_of_ne h, ih]

/-- Of all words the first one is left. -/
theorem foldl_hear (words : List Word) : words.foldl hear undecided = ofFirst words.head? := by
  cases words with
  | nil => rfl
  | cons word rest =>
      rw [List.foldl_cons, hear_undecided, foldl_hear_of_ne (ofFirst_some_ne word), List.head?_cons]

theorem suggestion?_eq_none_or (decision : RoutingDecision) :
    decision.suggestion? = none ∨ decision.denial? = none := by
  cases decision with
  | undecided => exact .inl rfl
  | suggested backend => exact .inr rfl
  | denied reason => exact .inl rfl

end RoutingDecision

/-! ## What the router makes of them -/

namespace Router

variable {router : Router} {context : RoutingContext} {initial : Bool} {unavailable : String → Bool}

/-- What the strategy in force gives; the reason tells if it is what was asked for. -/
def unasked (router : Router) (context : RoutingContext) (initial : Bool) :
    Except RoutingError Selection :=
  (router.select context initial).map fun selection =>
    if context.requested = some selection.backend.id then
      { selection with reason := .byRequest } else selection

/-- The outcomes that no strategy brings about. -/
def OfObservers : Except RoutingError Selection → Prop
  | .ok selection => selection.reason = .byObserver
  | .error (.denied _) | .error (.unknownOverride _) => True
  | .error _ => False

theorem not_ofObservers_unasked : ¬ OfObservers (router.unasked context initial) := by
  have hgranted : ∀ selection : Selection, selection.reason ≠ .byObserver →
      ¬ OfObservers (.ok (if context.requested = some selection.backend.id then
        { selection with reason := .byRequest } else selection)) := by
    intro selection hreason
    split
    · nofun
    · exact hreason
  unfold unasked select
  split
  · refine hgranted _ ?_
    dsimp only
    split <;> nofun
  · split
    · exact hgranted _ nofun
    · nofun

theorem prefer_ofFirst_none :
    router.prefer context initial (.ofFirst none) = router.unasked context initial := by
  change (router.select context initial >>= fun selection => _) = _
  unfold unasked
  cases router.select context initial with
  | error e => rfl
  | ok selection => rfl

theorem prefer_of_unknown {id : String} (h : router.backends.get? id = none) :
    router.prefer context initial (.suggested id) = .error (.unknownOverride id) := by
  simp [prefer, h]

theorem prefer_of_known {id : String} {backend : Backend}
    (h : router.backends.get? id = some backend) :
    router.prefer context initial (.suggested id) = .ok ⟨backend, .byObserver⟩ := by
  simp [prefer, h]

/-- What observers bring about is brought about by the first word. -/
theorem prefer_eq_iff {first : Option Word} {outcome : Except RoutingError Selection}
    (h : OfObservers outcome) : router.prefer context initial (.ofFirst first) = outcome ↔
      (∃ reason, first = some (.deny reason) ∧ outcome = .error (.denied reason)) ∨
      ∃ id, first = some (.suggest id) ∧
        ((∃ backend, router.backends.get? id = some backend ∧
            outcome = .ok ⟨backend, .byObserver⟩) ∨
          (router.backends.get? id = none ∧ outcome = .error (.unknownOverride id))) := by
  cases first with
  | none =>
      have hother : router.prefer context initial (.ofFirst none) ≠ outcome := by
        rw [prefer_ofFirst_none]
        rintro rfl
        exact not_ofObservers_unasked h
      simp [hother]
  | some word =>
      cases word with
      | suggest id =>
          cases hget : router.backends.get? id with
          | none => simp [RoutingDecision.ofFirst, prefer_of_unknown hget, hget, eq_comm]
          | some backend => simp [RoutingDecision.ofFirst, prefer_of_known hget, hget, eq_comm]
      | deny reason => simp [RoutingDecision.ofFirst, prefer, eq_comm]

theorem ofObservers_prefer_some (word : Word) :
    OfObservers (router.prefer context initial (.ofFirst (some word))) := by
  cases word with
  | suggest id =>
      unfold RoutingDecision.ofFirst
      cases hget : router.backends.get? id with
      | none =>
          rw [prefer_of_unknown hget]
          trivial
      | some backend =>
          rw [prefer_of_known hget]
          rfl
  | deny reason => trivial

/-- A choice is settled by the first word, if there is one: a denial is the outcome, a
suggestion is taken or refused by the ids of the backends, and only without any word the
strategy decides.  `chosen` is the choice before availability is looked at. -/
structure SettledBy (router : Router) (unavailable : String → Bool) (context : RoutingContext)
    (initial : Bool) (first : Option Word) (chosen result : Except RoutingError Selection) :
    Prop where
  swapped : result = chosen.map (router.avoid unavailable context)
  denied : ∀ reason, result = .error (.denied reason) ↔ first = some (.deny reason)
  unknown : ∀ id, result = .error (.unknownOverride id) ↔
    first = some (.suggest id) ∧ router.backends.get? id = none
  suggested : ∀ backend, chosen = .ok ⟨backend, .byObserver⟩ ↔
    ∃ id, first = some (.suggest id) ∧ router.backends.get? id = some backend
  strategy : chosen = router.unasked context initial ↔ first = none

theorem choose_eq_map (decision : RoutingDecision) :
    router.choose unavailable context initial decision =
      (router.prefer context initial decision).map (router.avoid unavailable context) := by
  unfold choose
  cases router.prefer context initial decision with
  | error e => rfl
  | ok selection => rfl

theorem settledBy_choose (first : Option Word) :
    router.SettledBy unavailable context initial first
      (router.prefer context initial (.ofFirst first))
      (router.choose unavailable context initial (.ofFirst first)) where
  swapped := choose_eq_map _
  denied reason := by
    have hobserved : OfObservers (.error (.denied reason)) := trivial
    rw [choose_eq_map, map_eq_error_iff, prefer_eq_iff hobserved]
    simp
  unknown id := by
    have hobserved : OfObservers (.error (.unknownOverride id)) := trivial
    rw [choose_eq_map, map_eq_error_iff, prefer_eq_iff hobserved]
    simp
  suggested backend := by
    have hobserved : OfObservers (.ok ⟨backend, .byObserver⟩) := rfl
    rw [prefer_eq_iff hobserved]
    simp
  strategy := by
    constructor
    · intro h
      cases first with
      | none => rfl
      | some word =>
          have hobserved : OfObservers (router.prefer context initial (.ofFirst (some word))) :=
            ofObservers_prefer_some word
          rw [h] at hobserved
          exact absurd hobserved not_ofObservers_unasked
    · rintro rfl
      exact prefer_ofFirst_none

end Router

/-! ## Asking the observers -/

namespace Routing

variable {ω σ : Type} {env : Surroundings σ} {slot : Slot σ Routing}
  {busSlot : Slot σ (Bus EventKind ω)} {unavailable : σ → String → Bool}
  {observe : ω → RoutePreSelect → σ → Completion × RoutePreSelect × σ}
  {words : ω → RoutePreSelect → σ → List Word} {context : RoutingContext} {initial : Bool}

/-- What is said in some turns, in this order. -/
def heard (words : ω → RoutePreSelect → σ → List Word)
    (turns : List (Bus.Turn EventKind ω (RoutePreSelect × σ))) : List Word :=
  turns.flatMap fun turn => words turn.registration.observer turn.before.1 turn.before.2

/-- With one more lease out. -/
def leased (slot : Slot σ Routing) (s : σ) : σ :=
  slot.modify (fun routing =>
    { routing with limiter := { routing.limiter with count := routing.limiter.count + 1 } }) s

theorem decision_of_linked (words : ω → RoutePreSelect → σ → List Word)
    {turns : List (Bus.Turn EventKind ω (RoutePreSelect × σ))} {start finish : RoutePreSelect × σ}
    (hlinked : Bus.Linked start turns finish)
    (hspeaks : ∀ turn ∈ turns, turn.after.1.decision =
      (words turn.registration.observer turn.before.1 turn.before.2).foldl RoutingDecision.hear
        turn.before.1.decision) :
    finish.1.decision = (heard words turns).foldl RoutingDecision.hear start.1.decision := by
  induction turns generalizing start with
  | nil =>
      cases hlinked
      rfl
  | cons turn rest ih =>
      obtain ⟨rfl, hrest⟩ := hlinked
      obtain ⟨hturn, hlater⟩ := List.forall_mem_cons.mp hspeaks
      rw [ih hrest hlater, hturn, heard, heard, List.flatMap_cons, List.foldl_append]

/-- While a slot is free the outcome is up to the router, once the observers have spoken. -/
theorem select_fst {s : σ} {asked : RoutePreSelect × σ}
    (hfree : (slot.get s).limiter.count < (slot.get s).limiter.limit)
    (hasked : env.post .routePreSelect { context := context } (leased slot s) = asked) :
    (select env slot unavailable context initial s).1 =
      (slot.get asked.2).router.choose (unavailable asked.2) context initial
        asked.1.decision := by
  unfold select InFlight.acquire
  rw [if_neg (Nat.not_le.mpr hfree)]
  change (decide env slot unavailable context initial (leased slot s)).1 = _
  unfold decide
  rw [hasked]
  dsimp only
  split
  · rename_i e hchosen
    exact hchosen.symm
  · rename_i selection hchosen
    exact hchosen.symm

/-- The turns in which the observers are asked that stand by the log: all of them, by priority
and registration, each of them once, and each finds what the one before it has left. -/
structure AskedInTurn (observe : ω → RoutePreSelect → σ → Completion × RoutePreSelect × σ)
    (log : List (Bus.Happening EventKind ω σ Event)) (start : RoutePreSelect × σ)
    (turns : List (Bus.Turn EventKind ω (RoutePreSelect × σ))) (asked : RoutePreSelect × σ) :
    Prop where
  standing : ∀ r, r ∈ turns.map Bus.Turn.registration ↔
    Bus.Stands log r ∧ r.kind = .routePreSelect
  ordered : (turns.map Bus.Turn.registration).Pairwise Registration.Precedes
  linked : Bus.Linked start turns asked
  called : ∀ turn ∈ turns, turn.after =
    (observe turn.registration.observer turn.before.1 turn.before.2).2

/-- Asking changes nothing about who is asked: the turns are those of the bus as it was. -/
theorem exists_askedInTurn
    (observe : ω → RoutePreSelect → σ → Completion × RoutePreSelect × σ)
    {log : List (Bus.Happening EventKind ω σ Event)} {s : σ}
    (hreflects : Bus.Reflects (busSlot.get s) log) (event : RoutePreSelect) :
    ∃ turns, AskedInTurn observe log (event, s) turns
      (Bus.post busSlot (fun _ => false) observe .routePreSelect event s) := by
  let p : Bus.Post EventKind ω σ Event := ⟨.routePreSelect, observe, event, s⟩
  have hdelivered : p.Delivered busSlot (fun _ _ => false) log := Bus.Reflects.delivered hreflects
  obtain ⟨turns, hstanding, hordered, hlinked, hfair⟩ := hdelivered.turns
  exact ⟨turns, hstanding, hordered, hlinked, fun turn hturn => (hfair turn hturn).called nofun⟩

/-- **The first word counts, and only it.**  Observers of any number and order, each of which
changes the decision by words alone and comes to its end in any way: they are asked in turn,
at no time is there both a suggestion and a denial, the decision is that of the first word of
all of them, and the outcome is settled by it. -/
theorem first_word_decides
    (hposts : env.post .routePreSelect =
      Bus.post busSlot (fun _ => false) observe .routePreSelect)
    (hspeaks : ∀ o e s, (observe o e s).2.1.decision =
      (words o e s).foldl RoutingDecision.hear e.decision)
    (hapart : ∀ routing s, busSlot.get (slot.set routing s) = busSlot.get s)
    {start s : σ} {log : List (Bus.Happening EventKind ω σ Event)}
    (hempty : busSlot.get start = {}) (hrun : Bus.Run busSlot (fun _ _ => false) start log s)
    (hfree : (slot.get s).limiter.count < (slot.get s).limiter.limit) :
    ∃ turns asked, AskedInTurn observe log ({ context := context }, leased slot s) turns asked ∧
      (∀ turn ∈ turns, turn.after.1.decision.suggestion? = none ∨
        turn.after.1.decision.denial? = none) ∧
      asked.1.decision = .ofFirst (heard words turns).head? ∧
      (slot.get asked.2).router.SettledBy (unavailable asked.2) context initial
        (heard words turns).head?
        ((slot.get asked.2).router.prefer context initial asked.1.decision)
        (select env slot unavailable context initial s).1 := by
  have hreflects : Bus.Reflects (busSlot.get (leased slot s)) log := by
    rw [leased, Slot.modify, hapart]
    exact (hrun.explained_of_empty hempty).1
  obtain ⟨turns, hturns⟩ := exists_askedInTurn observe hreflects { context := context }
  have hdecision := decision_of_linked words hturns.linked fun turn hturn => by
    rw [hturns.called turn hturn]
    exact hspeaks _ _ _
  rw [RoutingDecision.foldl_hear] at hdecision
  refine ⟨turns, _, hturns, fun turn _ => RoutingDecision.suggestion?_eq_none_or _, hdecision, ?_⟩
  rw [select_fst hfree (congrFun (congrFun hposts _) _), hdecision]
  exact Router.settledBy_choose _

end Routing

/-! ## Scripted observers -/

namespace Script

variable {α σ : Type} {spoke : RoutingDecision → Except RoutingError Unit → σ → σ}
  {act : α → RoutePreSelect → σ → σ}

/-- The words of a script.  It breaks off when a word is refused. -/
def words : List (Deed α) → RoutingDecision → List Word
  | [], _ | .fail :: _, _ | .panic :: _, _ => []
  | .suggest backend :: rest, decision =>
      .suggest backend :: if decision.isDecided then [] else words rest (.suggested backend)
  | .deny reason :: rest, decision =>
      .deny reason :: if decision.isDecided then [] else words rest (.denied reason)
  | .act _ :: rest, decision => words rest decision

theorem decision_runDeeds (deeds : List (Deed α)) (event : RoutePreSelect) (s : σ) :
    (runDeeds .routePreSelect spoke act deeds event s).2.1.decision =
      (words deeds event.decision).foldl RoutingDecision.hear event.decision := by
  induction deeds generalizing event s with
  | nil => rfl
  | cons deed rest ih =>
      cases deed with
      | fail => rfl
      | panic => rfl
      | suggest backend =>
          unfold runDeeds words changeDecision
          by_cases hdecided : event.decision.isDecided = true
          · simp [RoutingDecision.suggest, RoutingDecision.hear, hdecided, Except.map,
              Except.toOption]
          · simp [RoutingDecision.suggest, RoutingDecision.hear, hdecided, Except.map,
              Except.toOption, ih]
      | deny reason =>
          unfold runDeeds words changeDecision
          by_cases hdecided : event.decision.isDecided = true
          · simp [RoutingDecision.deny, RoutingDecision.hear, hdecided, Except.map,
              Except.toOption]
          · simp [RoutingDecision.deny, RoutingDecision.hear, hdecided, Except.map,
              Except.toOption, ih]
      | act action => exact ih event _

end Script

namespace RoutingRehearsal

/-- The words of an observer in a rehearsal. -/
def words (observer : RoutingObserver) (event : RoutePreSelect) (_ : RoutingRehearsal) :
    List Word :=
  match observer with
  | .recorder => []
  | .scripted script => Script.words script.deeds event.decision

theorem decision_observe (choose : Chooser) (observer : RoutingObserver) (event : RoutePreSelect)
    (rehearsal : RoutingRehearsal) :
    (observe choose .routePreSelect observer event rehearsal).2.1.decision =
      (words observer event rehearsal).foldl RoutingDecision.hear event.decision := by
  cases observer with
  | recorder => rfl
  | scripted script => exact Script.decision_runDeeds script.deeds event rehearsal

/-- Suggests the arena. -/
def host : RoutingObserver := .scripted ⟨"host", [.suggest "arena"]⟩

/-- Denies everybody, thinks better of it, and panics. -/
def doorman : RoutingObserver :=
  .scripted ⟨"doorman", [.deny "full", .suggest "lobby", .panic]⟩

/-- A rehearsal without observers. -/
def empty : RoutingRehearsal :=
  { new ⟨.ofList [⟨"lobby", "10.0.0.1", 25565⟩], "lobby", none⟩ 1 false none with bus := {} }

/-- With the host, and then with the doorman, who is asked before the host. -/
def staffed : RoutingRehearsal :=
  busSlot.modify (fun bus => (bus.register .routePreSelect ⟨.low, false⟩ doorman).2)
    (busSlot.modify (fun bus => (bus.register .routePreSelect ⟨.normal, false⟩ host).2) empty)

def staffing : List (Bus.Happening EventKind RoutingObserver RoutingRehearsal Event) :=
  [.registered ⟨0, .routePreSelect, ⟨.normal, false⟩, host⟩,
    .registered ⟨1, .routePreSelect, ⟨.low, false⟩, doorman⟩]

theorem run_staffing : Bus.Run busSlot (fun _ _ => false) empty staffing staffed :=
  .register EventKind.routePreSelect ⟨.normal, false⟩ host <|
    .register EventKind.routePreSelect ⟨.low, false⟩ doorman <| .done staffed

theorem first_word_decides_at_door :
    (Routing.select (surroundings (chooseWithin 1)) routingSlot (fun _ _ => false) {} true
      staffed).1 = .error (.denied "full") ∧
    ∃ turns asked, Routing.AskedInTurn (observe (chooseWithin 1) .routePreSelect) staffing
        ({ context := {} }, Routing.leased routingSlot staffed) turns asked ∧
      (Routing.heard words turns).head? = some (.deny "full") := by
  have hposts : (surroundings (chooseWithin 1)).post .routePreSelect =
      Bus.post busSlot (fun _ => false) (observe (chooseWithin 1) .routePreSelect)
        .routePreSelect := rfl
  have hapart : ∀ routing s, busSlot.get (routingSlot.set routing s) = busSlot.get s :=
    fun _ _ => rfl
  have hfree : (routingSlot.get staffed).limiter.count <
      (routingSlot.get staffed).limiter.limit := by decide
  have hdenied : (Routing.select (surroundings (chooseWithin 1)) routingSlot (fun _ _ => false) {}
      true staffed).1 = .error (.denied "full") := rfl
  obtain ⟨turns, asked, hturns, -, -, hsettled⟩ :=
    Routing.first_word_decides hposts (decision_observe _) hapart rfl run_staffing hfree
  exact ⟨hdenied, turns, asked, hturns, (hsettled.denied "full").mp hdenied⟩

end RoutingRehearsal

end GameGateway
