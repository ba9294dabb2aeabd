import GameGateway.Event.Bus

/-!
# What an observer may do

An activity is the behaviour of one observer, step by step: it looks at the event,
changes it, registers and unregisters observers, posts further events, keeps notes
of its own, and comes to an end.  Since the observers it registers are activities
too, posting may nest to any depth; `post` follows it as deep as its fuel allows.
-/

namespace GameGateway

/-- The behaviour of an observer of events of type `ε`; `μ` is what observers note
down outside the events. -/
inductive Activity (κ ε μ : Type) where
  | finish (completion : Completion)
  | inspect (next : ε → Activity κ ε μ)
  | alter (f : ε → ε) (next : Activity κ ε μ)
  | consult (next : μ → Activity κ ε μ)
  | note (f : μ → μ) (next : Activity κ ε μ)
  | register (kind : κ) (options : ObserverOptions) (observer : Activity κ ε μ)
      (next : Subscription κ → Activity κ ε μ)
  | unregister (s : Subscription κ) (next : Bool → Activity κ ε μ)
  | post (kind : κ) (event : ε) (next : ε → Activity κ ε μ)

namespace Activity

variable {κ ε μ : Type} [DecidableEq κ]

/-- The bus with what the observers have noted down. -/
abbrev Stage (κ ε μ : Type) := Bus κ (Activity κ ε μ) × μ

/-- Runs an activity on an event, with the given way of posting further ones. -/
def run (postFurther : κ → ε → Stage κ ε μ → ε × Stage κ ε μ) :
    Activity κ ε μ → ε → Stage κ ε μ → Completion × ε × Stage κ ε μ
  | finish completion, event, s => (completion, event, s)
  | inspect next, event, s => run postFurther (next event) event s
  | alter f next, event, s => run postFurther next (f event) s
  | consult next, event, s => run postFurther (next s.2) event s
  | note f next, event, s => run postFurther next event (s.1, f s.2)
  | register kind options observer next, event, s =>
      let (subscription, bus) := s.1.register kind options observer
      run postFurther (next subscription) event (bus, s.2)
  | unregister subscription next, event, s =>
      let (removed, bus) := s.1.unregister subscription
      run postFurther (next removed) event (bus, s.2)
  | post kind further next, event, s =>
      let (further, s) := postFurther kind further s
      run postFurther (next further) event s

/-- Posts an event to activities that may post events in turn, `fuel` deep. -/
def posting (cancelled : κ → ε → Bool) : (fuel : Nat) → κ → ε → Stage κ ε μ → ε × Stage κ ε μ
  | 0, _, event, s => (event, s)
  | fuel + 1, kind, event, s =>
      Bus.post Slot.first (cancelled kind) (run (posting cancelled fuel)) kind event s

end Activity

end GameGateway
