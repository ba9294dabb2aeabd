import GameGateway.Proofs.Route.FirstWord
import Mathlib.Data.List.Induction
import Mathlib.Data.List.Nodup

/-!
# Outcomes of routing

A choice has many ways out: it may be refused at once, denied, sent to a backend that does not
exist, left to a strategy, to the default backend, or moved away from a backend that is not
available.  On each of them a backend that comes out is a registered one, a reason says no more
than is true, and an error has its cause (`Router.justified_choose`).

What a choice does besides is told by one equation: it takes a lease, posts what there is to
be told, and gives the lease back (`Routing.select_snd`).  The events are read off the outcome
(`Routing.tidings`); surroundings with a notebook find exactly these in it
(`Surroundings.tell_telling`).
-/

namespace GameGateway

/-! ## What a registry holds -/

namespace Table

variable {κ α : Type} [DecidableEq κ]

/-- Of the pairs with one key the last one counts. -/
theorem get?_ofList (pairs : List (κ × α)) (key : κ) :
    (ofList pairs).get? key = (pairs.reverse.find? fun pair => pair.1 = key).map Prod.snd := by
  induction pairs using List.reverseRecOn with
  | nil => rfl
  | append_singleton pairs pair ih =>
      have hlast : ofList (pairs ++ [pair]) = (ofList pairs).insert pair.1 pair.2 := by
        rw [ofList, List.foldl_append]
        rfl
      rw [hlast, get?_insert, ih, List.reverse_append, List.reverse_singleton,
        List.singleton_append, List.find?_cons]
      by_cases h : pair.1 = key
      · simp [h]
      · simp [h, Ne.symm h]

end Table

namespace BackendRegistry

variable {backends : List Backend} {backend : Backend} {id : String}

theorem get?_ofList (backends : List Backend) (id : String) :
    (ofList backends).get? id = backends.reverse.find? fun backend => backend.id = id := by
  rw [ofList, Table.get?_ofList, ← List.map_reverse, List.find?_map, Option.map_map]
  exact Option.map_id'

/-- A backend is registered under its own id. -/
theorem id_of_get?_ofList (h : (ofList backends).get? id = some backend) : backend.id = id := by
  rw [get?_ofList] at h
  simpa using List.find?_some h

/-- Where no two backends have one id, every one of them is found. -/
theorem get?_ofList_of_mem (hnodup : (backends.map Backend.id).Nodup) (h : backend ∈ backends) :
    (ofList backends).get? backend.id = some backend := by
  rw [get?_ofList]
  cases hfind : backends.reverse.find? fun other => other.id = backend.id with
  | none =>
      have hnone := List.find?_eq_none.mp hfind backend (List.mem_reverse.mpr h)
      simp at hnone
  | some other =>
      have hmem := List.mem_reverse.mp (List.mem_of_find?_eq_some hfind)
      have hid : other.id = backend.id := by simpa using List.find?_some hfind
      rw [List.inj_on_of_nodup_map hnodup hmem h hid]

/-- A selection that is as it says: its backend is the one registered under its id, it was asked
for if the reason says so, and observers suggested it if the reason says so. -/
structure Grants (registry : BackendRegistry) (context : RoutingContext)
    (decision : RoutingDecision) (selection : Selection) : Prop where
  registered : registry.get? selection.backend.id = some selection.backend
  requested : selection.reason = .byRequest → context.requested = some selection.backend.id
  suggested : selection.reason = .byObserver → decision = .suggested selection.backend.id

/-- The causes of errors of a router. -/
def Refuses (registry : BackendRegistry) (fallback : String) (decision : RoutingDecision) :
    RoutingError → Prop
  | .denied reason => decision = .denied reason
  | .unknownOverride id => decision = .suggested id ∧ registry.get? id = none
  | .missingDefault id => id = fallback ∧ registry.get? id = none
  | .decisionFinalized | .overloaded _ => False

/-- A selection that is as it says, or an error with its cause. -/
def Justifies (registry : BackendRegistry) (fallback : String) (context : RoutingContext)
    (decision : RoutingDecision) : Except RoutingError Selection → Prop
  | .ok selection => registry.Grants context decision selection
  | .error e => registry.Refuses fallback decision e

end BackendRegistry

/-! ## What comes out of a router -/

namespace Router

variable {router : Router} {context : RoutingContext} {initial : Bool}
  {unavailable : String → Bool} {decision : RoutingDecision}
  (hkeyed : ∀ {id backend}, router.backends.get? id = some backend → backend.id = id)

include hkeyed

theorem registered_of_get? {id : String} {backend : Backend}
    (h : router.backends.get? id = some backend) :
    router.backends.get? backend.id = some backend := by
  rw [hkeyed h, h]

/-- What a strategy names is justified in every context and by every decision, because the
reason does not claim that anybody wanted it. -/
theorem justified_select (context' : RoutingContext) :
    router.backends.Justifies router.fallback context' decision
      (router.select context initial) := by
  have hgrants : ∀ {id backend} {reason : SelectionReason},
      router.backends.get? id = some backend → reason ≠ .byRequest → reason ≠ .byObserver →
      router.backends.Grants context' decision ⟨backend, reason⟩ :=
    fun hget hrequest hobserver =>
      ⟨registered_of_get? hkeyed hget, fun h => absurd h hrequest, fun h => absurd h hobserver⟩
  unfold select
  split
  · rename_i backend hpicked
    split
    · exact hgrants hpicked nofun nofun
    · exact hgrants hpicked nofun nofun
  · split
    · rename_i backend hfallback
      exact hgrants hfallback nofun nofun
    · rename_i hnone
      exact ⟨rfl, hnone⟩

theorem justified_prefer :
    router.backends.Justifies router.fallback context decision
      (router.prefer context initial decision) := by
  cases decision with
  | denied reason => exact rfl
  | suggested id =>
      cases hget : router.backends.get? id with
      | none =>
          rw [prefer_of_unknown hget]
          exact ⟨rfl, hget⟩
      | some backend =>
          rw [prefer_of_known hget]
          have hreason : SelectionReason.byObserver ≠ .byRequest := by decide
          exact ⟨registered_of_get? hkeyed hget, fun h => absurd h hreason,
            fun _ => by rw [hkeyed hget]⟩
  | undecided =>
      have hselect : router.backends.Justifies router.fallback context .undecided
          (router.select context initial) := justified_select hkeyed context
      rw [← RoutingDecision.ofFirst, prefer_ofFirst_none, unasked]
      cases hchosen : router.select context initial with
      | error e =>
          rw [hchosen] at hselect
          exact hselect
      | ok selection =>
          rw [hchosen] at hselect
          have hregistered := BackendRegistry.Grants.registered hselect
          -- The reason is changed only where it becomes true thereby.
          change router.backends.Grants context .undecided (if _ then _ else _)
          split
          · rename_i hrequested
            have hreason : SelectionReason.byRequest ≠ .byObserver := by decide
            exact ⟨hregistered, fun _ => hrequested, fun h => absurd h hreason⟩
          · exact hselect

/-- Moving away from a backend leads to another one that is as it says. -/
theorem grants_avoid {selection : Selection}
    (h : router.backends.Grants context decision selection) :
    router.backends.Grants context decision (router.avoid unavailable context selection) := by
  unfold avoid
  split
  · exact h
  · split
    · exact h
    · rename_i other hother
      split
      · exact h
      · have hselect : router.backends.Justifies router.fallback context decision
            (router.select { context with requested := none } true) :=
          justified_select hkeyed context
        rw [hother] at hselect
        exact hselect

/-- A backend that a router gives is as it says, and an error has its cause. -/
theorem justified_choose :
    router.backends.Justifies router.fallback context decision
      (router.choose unavailable context initial decision) := by
  have hprefer : router.backends.Justifies router.fallback context decision
      (router.prefer context initial decision) := justified_prefer hkeyed
  rw [choose_eq_map]
  cases hpreferred : router.prefer context initial decision with
  | error e =>
      rw [hpreferred] at hprefer
      exact hprefer
  | ok selection =>
      rw [hpreferred] at hprefer
      exact grants_avoid hkeyed hprefer

end Router

/-! ## What is told -/

/-- An event that was posted. -/
structure Posted where
  kind : EventKind
  event : Event kind

namespace Surroundings

variable {σ α : Type}

/-- The state after events have been posted one after the other. -/
def tell (env : Surroundings σ) (posts : List Posted) (s : σ) : σ :=
  posts.foldl (fun s posted => (env.post posted.kind posted.event s).2) s

/-- The same surroundings with a notebook for what is posted to them.  What observers post in
the meantime goes elsewhere and is not noted. -/
def telling (env : Surroundings σ) : Surroundings (σ × List Posted) where
  now := fun (s, _) => env.now s
  draw := fun (s, posts) =>
    let (value, s) := env.draw s
    (value, s, posts)
  post := fun kind event (s, posts) =>
    let (left, s) := env.post kind event s
    (left, s, posts ++ [⟨kind, event⟩])
  send := fun channel bytes (s, posts) =>
    let (result, s) := env.send channel bytes s
    (result, s, posts)

/-- What is posted is found in the notebook, and has the same effect as without one. -/
theorem tell_telling (env : Surroundings σ) (posts before : List Posted) (s : σ) :
    env.telling.tell posts (s, before) = (env.tell posts s, before ++ posts) := by
  induction posts generalizing s before with
  | nil =>
      rw [List.append_nil]
      rfl
  | cons first rest ih =>
      have hrest := ih (before ++ [first]) (env.post first.kind first.event s).2
      rw [List.append_assoc] at hrest
      exact hrest

/-- Observers leave a view of the state as it is. -/
def Keeps (env : Surroundings σ) (view : σ → α) : Prop :=
  ∀ kind event s, view (env.post kind event s).2 = view s

theorem Keeps.tell {env : Surroundings σ} {view : σ → α} (h : env.Keeps view)
    (posts : List Posted) (s : σ) : view (env.tell posts s) = view s := by
  induction posts generalizing s with
  | nil => rfl
  | cons first rest ih => exact (ih _).trans (h first.kind first.event s)

end Surroundings

namespace Routing

variable {σ : Type} {env : Surroundings σ} {slot : Slot σ Routing}
  {unavailable : σ → String → Bool} {context : RoutingContext} {initial : Bool}

/-- What is posted about a choice: nothing if there is no slot for it, else that it is about to
be made, and at the end the backend and the reason if there are any. -/
def tidings (context : RoutingContext) : Except RoutingError Selection → List Posted
  | .error (.overloaded _) => []
  | .error _ => [⟨.routePreSelect, { context := context }⟩]
  | .ok selection =>
      [⟨.routePreSelect, { context := context }⟩,
        ⟨.routePostSelect, ⟨context, selection.backend.id, selection.reason⟩⟩]

/-- With one lease less out. -/
def returned (slot : Slot σ Routing) (s : σ) : σ :=
  slot.modify (fun routing => { routing with limiter := routing.limiter.giveBack }) s

/-- The decision that the observers come to. -/
def decision (env : Surroundings σ) (slot : Slot σ Routing) (context : RoutingContext) (s : σ) :
    RoutingDecision :=
  (env.post .routePreSelect { context := context } (leased slot s)).1.decision

theorem limiter_returned {s s' : σ}
    (h : (slot.get s').limiter = (slot.get (leased slot s)).limiter) :
    (slot.get (returned slot s')).limiter = (slot.get s).limiter := by
  have hleased : (slot.get (leased slot s)).limiter =
      { (slot.get s).limiter with count := (slot.get s).limiter.count + 1 } := by
    rw [leased, Slot.get_modify]
  rw [returned, Slot.get_modify]
  dsimp only
  rw [h, hleased]
  rfl

theorem select_of_full {s : σ} (hfull : (slot.get s).limiter.limit ≤ (slot.get s).limiter.count) :
    select env slot unavailable context initial s =
      (.error (.overloaded (slot.get s).limiter.limit), s) := by
  unfold select InFlight.acquire
  rw [if_pos hfull]

theorem select_of_free {s : σ}
    (hfree : (slot.get s).limiter.count < (slot.get s).limiter.limit) :
    select env slot unavailable context initial s =
      ((decide env slot unavailable context initial (leased slot s)).1,
        returned slot (decide env slot unavailable context initial (leased slot s)).2) := by
  unfold select InFlight.acquire
  rw [if_neg (Nat.not_le.mpr hfree)]
  rfl

theorem decide_snd {s : σ}
    (hchosen : ∀ limit, (decide env slot unavailable context initial s).1 ≠
      .error (.overloaded limit)) :
    (decide env slot unavailable context initial s).2 =
      env.tell (tidings context (decide env slot unavailable context initial s).1) s := by
  unfold decide at hchosen ⊢
  dsimp only at hchosen ⊢
  split at hchosen
  · rename_i e hrefused
    cases e with
    | overloaded limit => exact absurd rfl (hchosen limit)
    | denied reason => rfl
    | unknownOverride id => rfl
    | missingDefault id => rfl
    | decisionFinalized => rfl
  · rfl

/-- While a slot is free, all that a choice does to the state is to take a lease, to post what
there is to be told and to give the lease back. -/
theorem select_snd {s : σ}
    (hfree : (slot.get s).limiter.count < (slot.get s).limiter.limit)
    (hchosen : ∀ limit, (select env slot unavailable context initial s).1 ≠
      .error (.overloaded limit)) :
    (select env slot unavailable context initial s).2 = returned slot
      (env.tell (tidings context (select env slot unavailable context initial s).1)
        (leased slot s)) := by
  rw [select_of_free hfree] at hchosen ⊢
  exact congrArg (returned slot) (decide_snd hchosen)

/-- A notebook makes no difference to the outcome. -/
theorem select_telling_fst {s : σ} (posts : List Posted)
    (hfree : (slot.get s).limiter.count < (slot.get s).limiter.limit) :
    (select env.telling (Slot.first.comp slot) (fun s => unavailable s.1) context initial
      (s, posts)).1 = (select env slot unavailable context initial s).1 := by
  have hplain : (select env slot unavailable context initial s).1 = _ := select_fst hfree rfl
  rw [hplain]
  exact select_fst (s := (s, posts)) hfree rfl

/-- The notebook holds what there is to be told, and the state is the same as without it. -/
theorem select_telling {s : σ} (posts : List Posted)
    (hfree : (slot.get s).limiter.count < (slot.get s).limiter.limit)
    (hchosen : ∀ limit, (select env slot unavailable context initial s).1 ≠
      .error (.overloaded limit)) :
    select env.telling (Slot.first.comp slot) (fun s => unavailable s.1) context initial
        (s, posts) =
      ((select env slot unavailable context initial s).1,
        (select env slot unavailable context initial s).2,
        posts ++ tidings context (select env slot unavailable context initial s).1) := by
  have hfst : (select env.telling (Slot.first.comp slot) (fun s => unavailable s.1) context
      initial (s, posts)).1 = (select env slot unavailable context initial s).1 :=
    select_telling_fst posts hfree
  refine Prod.ext hfst ?_
  rw [select_snd (s := (s, posts)) hfree (by rwa [hfst]), hfst, select_snd hfree hchosen]
  exact congrArg (returned (Slot.first.comp slot)) (env.tell_telling _ posts (leased slot s))

theorem view_decide {α : Type} {view : σ → α} (hkeeps : env.Keeps view) (s : σ) :
    view (decide env slot unavailable context initial s).2 = view s := by
  unfold decide
  dsimp only
  split
  · exact hkeeps _ _ _
  · exact (hkeeps _ _ _).trans (hkeeps _ _ _)

/-- Where observers leave routing as it is, a choice leaves it as it is. -/
theorem get_select (hkeeps : env.Keeps slot.get) (s : σ) :
    slot.get (select env slot unavailable context initial s).2 = slot.get s := by
  rcases Nat.lt_or_ge (slot.get s).limiter.count (slot.get s).limiter.limit with hfree | hfull
  · rw [select_of_free hfree, returned, Slot.get_modify, view_decide hkeeps, leased,
      Slot.get_modify]
    rfl
  · rw [select_of_full hfull]

/-! ## The outcome of a choice -/

/-- What is true of the outcome of a choice and of the state that is left behind.  The registry
and the id of the default backend are those of the router, and `s` is the state before. -/
structure Sound (env : Surroundings σ) (slot : Slot σ Routing) (registry : BackendRegistry)
    (fallback : String) (context : RoutingContext) (s : σ)
    (result : Except RoutingError Selection) (after : σ) : Prop where
  granted : ∀ selection, result = .ok selection →
    registry.Grants context (decision env slot context s) selection
  overloaded : ∀ limit, result = .error (.overloaded limit) ↔
    limit = (slot.get s).limiter.limit ∧ limit ≤ (slot.get s).limiter.count
  refused : ∀ e, result = .error e → (∃ limit, e = .overloaded limit) ∨
    registry.Refuses fallback (decision env slot context s) e
  defaulted : (registry.get? fallback).isSome → ∀ e, result = .error e →
    (∃ reason, e = .denied reason) ∨ (∃ id, e = .unknownOverride id) ∨
      ∃ limit, e = .overloaded limit
  effect : after = if (slot.get s).limiter.limit ≤ (slot.get s).limiter.count then s
    else returned slot (env.tell (tidings context result) (leased slot s))
  leases : (env.Keeps fun s => (slot.get s).limiter) →
    (slot.get after).limiter = (slot.get s).limiter

variable {registry : BackendRegistry} {fallback : String} {s : σ}

theorem sound_of_full (hfull : (slot.get s).limiter.limit ≤ (slot.get s).limiter.count) :
    Sound env slot registry fallback context s
      (.error (.overloaded (slot.get s).limiter.limit)) s where
  granted := nofun
  overloaded limit := by
    constructor
    · intro h
      cases h
      exact ⟨rfl, hfull⟩
    · rintro ⟨rfl, -⟩
      rfl
  refused e h := by
    cases h
    exact .inl ⟨_, rfl⟩
  defaulted _ e h := by
    cases h
    exact .inr (.inr ⟨_, rfl⟩)
  effect := by rw [if_pos hfull]
  leases _ := rfl

theorem sound_of_free (hfree : (slot.get s).limiter.count < (slot.get s).limiter.limit)
    {result : Except RoutingError Selection}
    (hjustified : registry.Justifies fallback context (decision env slot context s) result) :
    Sound env slot registry fallback context s result
      (returned slot (env.tell (tidings context result) (leased slot s))) where
  granted selection h := by
    rw [h] at hjustified
    exact hjustified
  overloaded limit := by
    constructor
    · rintro rfl
      exact hjustified.elim
    · rintro ⟨rfl, hfull⟩
      exact absurd hfull (Nat.not_le.mpr hfree)
  refused e h := by
    rw [h] at hjustified
    exact .inr hjustified
  defaulted hdefault e h := by
    rw [h] at hjustified
    cases e with
    | denied reason => exact .inl ⟨reason, rfl⟩
    | unknownOverride id => exact .inr (.inl ⟨id, rfl⟩)
    | missingDefault id =>
        obtain ⟨rfl, hnone⟩ := hjustified
        rw [hnone] at hdefault
        cases hdefault
    | decisionFinalized => exact hjustified.elim
    | overloaded limit => exact hjustified.elim
  effect := by rw [if_neg (Nat.not_le.mpr hfree)]
  leases hkeeps := limiter_returned (hkeeps.tell _ _)

/-- What a choice leads to is justified by the router as it was before, because observers leave
its backends alone. -/
theorem justified_select {backends : List Backend}
    (hbackends : (slot.get s).router.backends = .ofList backends)
    (hkeeps : env.Keeps fun s => ((slot.get s).router.backends, (slot.get s).router.fallback))
    (hfree : (slot.get s).limiter.count < (slot.get s).limiter.limit) :
    (BackendRegistry.ofList backends).Justifies (slot.get s).router.fallback context
      (decision env slot context s) (select env slot unavailable context initial s).1 := by
  obtain ⟨hregistry, hfallback⟩ := Prod.mk.inj
    (hkeeps .routePreSelect { context := context } (leased slot s))
  have hleased : (slot.get (leased slot s)).router = (slot.get s).router := by
    rw [leased, Slot.get_modify]
  rw [hleased] at hregistry hfallback
  rw [select_fst hfree rfl, ← hbackends, ← hregistry, ← hfallback]
  refine Router.justified_choose fun hget => ?_
  rw [hregistry, hbackends] at hget
  exact BackendRegistry.id_of_get?_ofList hget

/-- **Outcomes of routing.**  Whatever strategy, availability and observers there are, as long as
nobody puts other backends in the place of those of the router: a backend that comes out is
the registered one and its reason is true, every error has its cause, the events are told
once and fit the outcome, and the lease that is taken is given back. -/
theorem select_sound {backends : List Backend}
    (hbackends : (slot.get s).router.backends = .ofList backends)
    (hkeeps : env.Keeps fun s => ((slot.get s).router.backends, (slot.get s).router.fallback)) :
    ∃ result after, select env slot unavailable context initial s = (result, after) ∧
      Sound env slot (.ofList backends) (slot.get s).router.fallback context s result after ∧
      ∀ posts, select env.telling (Slot.first.comp slot) (fun s => unavailable s.1) context
        initial (s, posts) = (result, after, posts ++ tidings context result) := by
  rcases Nat.lt_or_ge (slot.get s).limiter.count (slot.get s).limiter.limit with hfree | hfull
  · have hjustified : (BackendRegistry.ofList backends).Justifies (slot.get s).router.fallback
        context (decision env slot context s)
        (select env slot unavailable context initial s).1 :=
      justified_select hbackends hkeeps hfree
    have hchosen : ∀ limit, (select env slot unavailable context initial s).1 ≠
        .error (.overloaded limit) := by
      intro limit h
      rw [h] at hjustified
      exact hjustified
    have hsound := sound_of_free hfree hjustified
    rw [← select_snd hfree hchosen] at hsound
    exact ⟨_, _, rfl, hsound, fun posts => select_telling posts hfree hchosen⟩
  · refine ⟨_, _, select_of_full hfull, sound_of_full hfull, fun posts => ?_⟩
    rw [tidings, List.append_nil]
    exact select_of_full hfull

end Routing

/-! ## Scripted observers -/

theorem Script.view_runDeeds {α β σ : Type} {kind : EventKind}
    {spoke : RoutingDecision → Except RoutingError Unit → σ → σ} {act : α → Event kind → σ → σ}
    (view : σ → β) (hspoke : ∀ word result s, view (spoke word result s) = view s)
    (hact : ∀ action event s, view (act action event s) = view s) (deeds : List (Deed α))
    (event : Event kind) (s : σ) : view (runDeeds kind spoke act deeds event s).2.2 = view s := by
  induction deeds generalizing event s with
  | nil => rfl
  | cons deed rest ih =>
      cases deed with
      | fail => rfl
      | panic => rfl
      | suggest backend =>
          unfold runDeeds
          split
          · exact ih event s
          · exact (ih _ _).trans (hspoke _ _ s)
          · exact hspoke _ _ s
      | deny reason =>
          unfold runDeeds
          split
          · exact ih event s
          · exact (ih _ _).trans (hspoke _ _ s)
          · exact hspoke _ _ s
      | act action => exact (ih event _).trans (hact action event s)

namespace RoutingRehearsal

theorem routing_recordEvent (kind : EventKind) (event : Event kind) (rehearsal : RoutingRehearsal) :
    (recordEvent kind event rehearsal).routing = rehearsal.routing := by
  cases kind <;> rfl

/-- Observers leave routing as it is if their own choices do. -/
theorem keeps_surroundings {choose : Chooser}
    (hchoose : ∀ choice rehearsal, (choose choice rehearsal).2.routing = rehearsal.routing) :
    (surroundings choose).Keeps routingSlot.get := by
  intro kind event rehearsal
  refine Bus.deliver_induction
    (P := fun p : Event kind × RoutingRehearsal => p.2.routing = rehearsal.routing) ?_ rfl
  intro r _ e s hs
  refine Eq.trans ?_ hs
  unfold observe
  split
  · exact routing_recordEvent kind e s
  · refine Script.view_runDeeds routing ?_ ?_ _ e s
    · exact fun _ _ _ => rfl
    · intro choice event s
      split
      · rfl
      · exact hchoose choice s

/-- However deep choices nest, none of them leaves a trace in routing. -/
theorem routing_chooseWithin (fuel : Nat) (choice : Choice) (rehearsal : RoutingRehearsal) :
    (chooseWithin fuel choice rehearsal).2.routing = rehearsal.routing := by
  induction fuel generalizing choice rehearsal with
  | zero => rfl
  -- The choices of observers have less fuel, so they are covered by the induction.
  | succ fuel ih => exact Routing.get_select (keeps_surroundings ih) rehearsal

/-- Sees where somebody else would be sent before he suggests the arena. -/
def usher : RoutingObserver :=
  .scripted ⟨"usher", [.act ⟨true, { username := some nestedUser }⟩, .suggest "arena"]⟩

/-- A lobby and an arena, with an usher, and with room for two choices at a time. -/
def ushered : RoutingRehearsal :=
  busSlot.modify (fun bus => (bus.register .routePreSelect {} usher).2)
    { new ⟨.ofList [⟨"lobby", "10.0.0.1", 25565⟩, ⟨"arena", "10.0.0.2", 25565⟩], "lobby", none⟩ 2
        false none with bus := {} }

theorem select_sound_with_usher :
    ∃ after, Routing.select (surroundings (chooseWithin 1)) routingSlot (fun _ _ => false) {} true
        ushered = (.ok ⟨⟨"arena", "10.0.0.2", 25565⟩, .byObserver⟩, after) ∧
      after.routing.limiter = ushered.routing.limiter ∧
      Routing.select (surroundings (chooseWithin 1)).telling (Slot.first.comp routingSlot)
          (fun _ _ => false) {} true (ushered, []) =
        (.ok ⟨⟨"arena", "10.0.0.2", 25565⟩, .byObserver⟩, after,
          [⟨.routePreSelect, { context := {} }⟩,
            ⟨.routePostSelect, ⟨{}, "arena", .byObserver⟩⟩]) := by
  have hrouting : (surroundings (chooseWithin 1)).Keeps routingSlot.get :=
    keeps_surroundings (routing_chooseWithin 1)
  have hkeeps : (surroundings (chooseWithin 1)).Keeps fun rehearsal =>
      ((routingSlot.get rehearsal).router.backends, (routingSlot.get rehearsal).router.fallback) :=
    fun kind event s => congrArg (fun routing => (routing.router.backends, routing.router.fallback))
      (hrouting kind event s)
  have hlimiter : (surroundings (chooseWithin 1)).Keeps fun rehearsal =>
      (routingSlot.get rehearsal).limiter :=
    fun kind event s => congrArg Routing.limiter (hrouting kind event s)
  have harena : (Routing.select (surroundings (chooseWithin 1)) routingSlot (fun _ _ => false) {}
      true ushered).1 = .ok ⟨⟨"arena", "10.0.0.2", 25565⟩, .byObserver⟩ := rfl
  obtain ⟨result, after, hselect, hsound, htold⟩ :=
    Routing.select_sound (s := ushered) rfl hkeeps
  rw [hselect] at harena
  cases harena
  exact ⟨after, hselect, hsound.leases hlimiter, htold []⟩

end RoutingRehearsal

end GameGateway
