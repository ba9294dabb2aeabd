import GameGateway.Proofs.Route.Outcome

/-!
# Avoiding backends

A backend that is not available is avoided if that helps.  The preferred backend comes from a
suggestion, from the strategy or from the default; only if it is not available, the router looks
where it would send a player first who asks for nothing, and goes there if this is another
backend and an available one.

So there are two runs of the strategy, in two contexts, and four ways in which their outcomes and
the availability of both can stand to each other (`Router.avoid_cases`).  Whatever strategy and
availability there are, the choice is one of the two outcomes, with the reason of that one
(`Routing.avoids_unavailable`).
-/

namespace GameGateway

/-- Every backend is registered under its own id. -/
def BackendRegistry.Keyed (registry : BackendRegistry) : Prop :=
  ∀ id backend, registry.get? id = some backend → backend.id = id

namespace Router

variable {router : Router} {context : RoutingContext} {initial : Bool} {down : String → Bool}
  {decision : RoutingDecision} {selection pick : Selection}

/-- Where a player is sent first who is in the same place but asks for nothing. -/
def initialPick (router : Router) (context : RoutingContext) : Except RoutingError Selection :=
  router.select { context with requested := none } true

/-- A strategy claims neither that a backend was asked for nor that it was suggested. -/
theorem reason_of_select (h : router.select context initial = .ok selection) :
    selection.reason = .byDefault ∨ selection.reason = .byStrategy := by
  unfold select at h
  split at h
  · cases h
    dsimp only
    split
    · exact .inr rfl
    · exact .inl rfl
  · split at h
    · cases h
      exact .inl rfl
    · cases h

/-- Moving to another backend is of no use: it is the same one, it is not available either, or
there is none. -/
def Stranded (router : Router) (down : String → Bool) (context : RoutingContext)
    (selection : Selection) : Prop :=
  ∀ pick, router.initialPick context = .ok pick →
    pick.backend.id = selection.backend.id ∨ down pick.backend.id = true

/-- A selection is kept, because its backend is available or because there is no better one, or
it gives way to the initial pick. -/
theorem avoid_cases (router : Router) (down : String → Bool) (context : RoutingContext)
    (selection : Selection) :
    (router.avoid down context selection = selection ∧
        (down selection.backend.id = true → router.Stranded down context selection)) ∨
      ∃ pick, router.avoid down context selection = pick ∧
        router.initialPick context = .ok pick ∧ down selection.backend.id = true ∧
        pick.backend.id ≠ selection.backend.id ∧ down pick.backend.id = false := by
  unfold avoid
  split
  · rename_i havailable
    refine .inl ⟨rfl, fun hdown => ?_⟩
    rw [hdown] at havailable
    cases havailable
  rename_i hdown
  have hdown : down selection.backend.id = true := by simpa using hdown
  split
  · rename_i e hnone
    refine .inl ⟨rfl, fun _ pick hpick => ?_⟩
    cases hnone.symm.trans hpick
  rename_i other hother
  split
  · rename_i huseless
    refine .inl ⟨rfl, fun _ pick hpick => ?_⟩
    cases hother.symm.trans hpick
    exact huseless
  · rename_i hhelps
    obtain ⟨hne, havailable⟩ := not_or.mp hhelps
    exact .inr ⟨other, rfl, hother, hdown, hne, Bool.eq_false_iff.mpr havailable⟩

/-- The outcome of a choice that is made with an eye on availability.  `preferred` is the outcome
without it, and `down` tells which backends are not available. -/
structure Avoids (router : Router) (down : String → Bool) (context : RoutingContext)
    (preferred result : Except RoutingError Selection) : Prop where
  refused : ∀ e, result = .error e ↔ preferred = .error e
  /-- An available backend is kept, with its own reason. -/
  kept : ∀ primary, preferred = .ok primary → down primary.backend.id = false →
    result = .ok primary
  /-- Any other backend is the initial pick, and available. -/
  moved : ∀ primary selection, preferred = .ok primary → result = .ok selection →
    selection.backend ≠ primary.backend →
      router.initialPick context = .ok selection ∧ down selection.backend.id = false ∧
        (selection.reason = .byDefault ∨ selection.reason = .byStrategy)
  /-- An unavailable backend is given only for want of a better one. -/
  stranded : ∀ selection, result = .ok selection → down selection.backend.id = true →
    router.Stranded down context selection
  /-- The initial pick under the same id is the same backend. -/
  same : router.backends.Keyed → ∀ selection pick, result = .ok selection →
    router.initialPick context = .ok pick → pick.backend.id = selection.backend.id →
      pick.backend = selection.backend

theorem avoids_choose : router.Avoids down context (router.prefer context initial decision)
    (router.choose down context initial decision) where
  refused e := by
    rw [choose_eq_map]
    exact map_eq_error_iff
  kept primary hprimary havailable := by
    rw [choose_eq_map, hprimary]
    refine congrArg Except.ok ?_
    rcases router.avoid_cases down context primary with ⟨hkept, -⟩ | ⟨pick, -, -, hdown, -⟩
    · exact hkept
    · rw [havailable] at hdown
      cases hdown
  moved primary selection hprimary hresult hne := by
    rw [choose_eq_map, hprimary] at hresult
    cases hresult
    rcases router.avoid_cases down context primary with
      ⟨hkept, -⟩ | ⟨pick, hmoved, hpick, -, -, havailable⟩
    · exact absurd (congrArg Selection.backend hkept) hne
    · rw [hmoved]
      exact ⟨hpick, havailable, reason_of_select hpick⟩
  stranded selection hresult hdown := by
    rw [choose_eq_map] at hresult
    cases hpreferred : router.prefer context initial decision with
    | error e =>
        rw [hpreferred] at hresult
        cases hresult
    | ok primary =>
        rw [hpreferred] at hresult
        cases hresult
        rcases router.avoid_cases down context primary with
          ⟨hkept, hstranded⟩ | ⟨pick, hmoved, -, -, -, havailable⟩
        · rw [hkept] at hdown ⊢
          exact hstranded hdown
        · rw [hmoved, havailable] at hdown
          cases hdown
  same hkeyed selection pick hresult hpick hid := by
    have hchosen : router.backends.Justifies router.fallback context decision
        (router.choose down context initial decision) := justified_choose (hkeyed _ _)
    have hpicked : router.backends.Justifies router.fallback context decision
        (router.initialPick context) := justified_select (hkeyed _ _) context
    rw [hresult] at hchosen
    rw [hpick] at hpicked
    have hregistered := BackendRegistry.Grants.registered hpicked
    rw [hid, BackendRegistry.Grants.registered hchosen] at hregistered
    exact (Option.some.inj hregistered).symm

end Router

namespace Routing

variable {σ : Type} {env : Surroundings σ} {slot : Slot σ Routing}
  {unavailable : σ → String → Bool} {context : RoutingContext} {initial : Bool}

/-- **Unavailable backends are avoided where there is a better one.**  Whatever backends,
strategy and availability there are, and whatever observers decide: the preferred backend stays
if it is available, any other outcome is the available backend that the player would be sent to
first, and an unavailable backend comes out only if that one does not exist, is the same, or is
not available either. -/
theorem avoids_unavailable {s : σ} {asked : RoutePreSelect × σ}
    (hfree : (slot.get s).limiter.count < (slot.get s).limiter.limit)
    (hasked : env.post .routePreSelect { context := context } (leased slot s) = asked) :
    (slot.get asked.2).router.Avoids (unavailable asked.2) context
      ((slot.get asked.2).router.prefer context initial asked.1.decision)
      (select env slot unavailable context initial s).1 := by
  rw [select_fst hfree hasked]
  exact Router.avoids_choose

end Routing

namespace RoutingRehearsal

/-- The usher sends everybody to the arena, which is not available. -/
def emptyArena : RoutingRehearsal := { ushered with down := some ["arena"] }

/-- The backends that are not available. -/
def isDown (rehearsal : RoutingRehearsal) (backend : String) : Bool :=
  (rehearsal.down.getD []).contains backend

/-- When the observers of the empty arena have been asked. -/
def askedThere : RoutePreSelect × RoutingRehearsal :=
  (surroundings (chooseWithin 1)).post .routePreSelect { context := {} }
    (Routing.leased routingSlot emptyArena)

/-- A player who is sent to the arena goes to the lobby while the arena is not available. -/
theorem avoids_empty_arena :
    (routingSlot.get emptyArena).limiter.count < (routingSlot.get emptyArena).limiter.limit ∧
      (routingSlot.get askedThere.2).router.prefer {} true askedThere.1.decision =
        .ok ⟨⟨"arena", "10.0.0.2", 25565⟩, .byObserver⟩ ∧
      (Routing.select (surroundings (chooseWithin 1)) routingSlot isDown {} true emptyArena).1 =
        .ok ⟨⟨"lobby", "10.0.0.1", 25565⟩, .byDefault⟩ ∧
      (routingSlot.get askedThere.2).router.initialPick {} =
        .ok ⟨⟨"lobby", "10.0.0.1", 25565⟩, .byDefault⟩ ∧
      isDown askedThere.2 "lobby" = false := by
  have hfree : (routingSlot.get emptyArena).limiter.count <
      (routingSlot.get emptyArena).limiter.limit := by decide
  have hprimary : (routingSlot.get askedThere.2).router.prefer {} true askedThere.1.decision =
      .ok ⟨⟨"arena", "10.0.0.2", 25565⟩, .byObserver⟩ := rfl
  have hresult : (Routing.select (surroundings (chooseWithin 1)) routingSlot isDown {} true
      emptyArena).1 = .ok ⟨⟨"lobby", "10.0.0.1", 25565⟩, .byDefault⟩ := rfl
  have havoids : (routingSlot.get askedThere.2).router.Avoids (isDown askedThere.2) {}
      ((routingSlot.get askedThere.2).router.prefer {} true askedThere.1.decision)
      (Routing.select (surroundings (chooseWithin 1)) routingSlot isDown {} true emptyArena).1 :=
    Routing.avoids_unavailable hfree rfl
  obtain ⟨hpick, havailable, -⟩ := havoids.moved _ _ hprimary hresult (by decide)
  exact ⟨hfree, hprimary, hresult, hpick, havailable⟩

end RoutingRehearsal

end GameGateway
