import GameGateway.Event.Bus

/-!
# One delivery

What happens on a bus while a single event is posted, whatever the observers do.  The bus keeps
its registrations in the order in which they get events (`Bus.pairwise_place`), and delivery
takes one turn for each of them: `Bus.exists_turns` gives the turns in this order, each
beginning where the one before has ended.  A turn either passes over its observer or calls it.

Nothing here speaks of the history of a bus; that is added by the runs of calls.
-/

namespace GameGateway

/-! ## The order of registrations -/

namespace Registration

variable {κ ω : Type} {a b c : Registration κ ω}

/-- What the observer has been given to leave the bus with. -/
def subscription (r : Registration κ ω) : Subscription κ := ⟨r.kind, r.id⟩

/-- An event gets to `a` before it gets to `b`: by priority first, then by registration. -/
def Precedes (a b : Registration κ ω) : Prop :=
  a.options.priority.rank < b.options.priority.rank ∨
    a.options.priority.rank = b.options.priority.rank ∧ a.id < b.id

theorem Precedes.trans (h : Precedes a b) (h' : Precedes b c) : Precedes a c := by
  unfold Precedes at *
  omega

end Registration

namespace Bus

variable {κ ω : Type} {r other : Registration κ ω} {rs : List (Registration κ ω)}

theorem mem_place : other ∈ place r rs ↔ other = r ∨ other ∈ rs := by
  induction rs with
  | nil => simp [place]
  | cons first rest ih =>
      unfold place
      split
      · simp
      · rw [List.mem_cons, List.mem_cons, ih]
        exact or_left_comm

/-- A newcomer is put where it belongs, because it comes after all of its own priority. -/
theorem pairwise_place (h : rs.Pairwise Registration.Precedes) (hnew : ∀ old ∈ rs, old.id < r.id) :
    (place r rs).Pairwise Registration.Precedes := by
  induction rs with
  | nil => exact List.pairwise_singleton _ r
  | cons first rest ih =>
      obtain ⟨hfirst, hrest⟩ := List.pairwise_cons.mp h
      obtain ⟨hnewFirst, hnewRest⟩ := List.forall_mem_cons.mp hnew
      unfold place
      split
      · rename_i hrank
        have hhead : r.Precedes first := .inl hrank
        refine List.pairwise_cons.mpr ⟨?_, h⟩
        intro later hlater
        rcases List.mem_cons.mp hlater with rfl | hlater
        · exact hhead
        · exact hhead.trans (hfirst later hlater)
      · rename_i hrank
        refine List.pairwise_cons.mpr ⟨?_, ih hrest hnewRest⟩
        intro later hlater
        rcases mem_place.mp hlater with rfl | hlater
        · rcases Nat.lt_or_eq_of_le (Nat.not_lt.mp hrank) with hlt | heq
          · exact .inl hlt
          · exact .inr ⟨heq, hnewFirst⟩
        · exact hfirst later hlater

/-! ## Turns -/

/-- What the turn of an observer makes of the event and the state around it. -/
structure Turn (κ ω α : Type) where
  registration : Registration κ ω
  before : α
  after : α

/-- Each turn begins where the one before it has ended. -/
def Linked {α : Type} : α → List (Turn κ ω α) → α → Prop
  | start, [], finish => start = finish
  | start, turn :: rest, finish => turn.before = start ∧ Linked turn.after rest finish

variable {ε σ : Type} {cancelled : ε → Bool} {run run' : ω → ε → σ → Completion × ε × σ}

/-- An observer is passed over exactly if the event is cancelled when its turn comes and it
does not want such events.  Otherwise it is called, and what it has done stays done, no matter
how it came to its end. -/
structure Turn.Fair (cancelled : ε → Bool) (run : ω → ε → σ → Completion × ε × σ)
    (turn : Turn κ ω (ε × σ)) : Prop where
  passed : cancelled turn.before.1 = true → turn.registration.options.receivesCancelled = false →
    turn.after = turn.before
  called : (cancelled turn.before.1 = true → turn.registration.options.receivesCancelled = true) →
    turn.after = (run turn.registration.observer turn.before.1 turn.before.2).2

theorem deliver_cons (r : Registration κ ω) (rs : List (Registration κ ω)) (event : ε) (s : σ) :
    deliver cancelled run (r :: rs) event s =
      if cancelled event = true ∧ r.options.receivesCancelled = false then
        deliver cancelled run rs event s
      else deliver cancelled run rs (run r.observer event s).2.1 (run r.observer event s).2.2 := by
  rw [deliver]
  simp only [Bool.and_eq_true, Bool.not_eq_true']

theorem exists_turns (cancelled : ε → Bool) (run : ω → ε → σ → Completion × ε × σ)
    (rs : List (Registration κ ω)) (event : ε) (s : σ) :
    ∃ turns : List (Turn κ ω (ε × σ)), turns.map Turn.registration = rs ∧
      Linked (event, s) turns (deliver cancelled run rs event s) ∧
      ∀ turn ∈ turns, turn.Fair cancelled run := by
  induction rs generalizing event s with
  | nil => exact ⟨[], rfl, rfl, List.forall_mem_nil _⟩
  | cons r rest ih =>
      rw [deliver_cons]
      split
      · rename_i hpassed
        obtain ⟨turns, hmap, hlinked, hfair⟩ := ih event s
        refine ⟨⟨r, (event, s), (event, s)⟩ :: turns, by rw [List.map_cons, hmap],
          ⟨rfl, hlinked⟩, List.forall_mem_cons.mpr ⟨⟨fun _ _ => rfl, fun hwants => ?_⟩, hfair⟩⟩
        have hboth := hwants hpassed.1
        rw [hpassed.2] at hboth
        cases hboth
      · rename_i hcalled
        obtain ⟨turns, hmap, hlinked, hfair⟩ := ih (run r.observer event s).2.1
          (run r.observer event s).2.2
        refine ⟨⟨r, (event, s), (run r.observer event s).2⟩ :: turns, by rw [List.map_cons, hmap],
          ⟨rfl, hlinked⟩,
          List.forall_mem_cons.mpr ⟨⟨fun hcancelled hdeaf => ?_, fun _ => rfl⟩, hfair⟩⟩
        exact absurd ⟨hcancelled, hdeaf⟩ hcalled

/-- How observers come to their ends makes no difference to a delivery. -/
theorem deliver_congr (h : ∀ o e s, (run' o e s).2 = (run o e s).2) (rs : List (Registration κ ω))
    (event : ε) (s : σ) : deliver cancelled run' rs event s = deliver cancelled run rs event s := by
  induction rs generalizing event s with
  | nil => rfl
  | cons r rest ih => rw [deliver_cons, deliver_cons, h, ih, ih]

/-- What holds of the event and the state before a delivery and is kept by every observer that
gets the event holds after it. -/
theorem deliver_induction {P : ε × σ → Prop}
    (hrun : ∀ r ∈ rs, ∀ e s, P (e, s) → P (run r.observer e s).2) {event : ε} {s : σ}
    (h : P (event, s)) : P (deliver cancelled run rs event s) := by
  induction rs generalizing event s with
  | nil => exact h
  | cons r rest ih =>
      obtain ⟨hfirst, hrest⟩ := List.forall_mem_cons.mp hrun
      rw [deliver_cons]
      split
      · exact ih hrest h
      · exact ih hrest (hfirst event s h)

end Bus

end GameGateway
