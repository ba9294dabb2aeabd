import GameGateway.Channel.Basic
import GameGateway.Event.Kind

/-!
# Parts and what is around them

A gateway is made of parts that act on each other while others wait: an observer may
send a packet while a packet is being handled.  A part is therefore described by what it
does to a state of which it sees only its own slot; what happens outside the slot is left
open.
-/

namespace GameGateway

/-! ## Parts of a state -/

/-- A part of type `α` of a state of type `σ`. -/
structure Slot (σ α : Type) where
  get : σ → α
  set : α → σ → σ
  get_set : ∀ a s, get (set a s) = a
  set_get : ∀ s, set (get s) s = s
  set_set : ∀ a b s, set a (set b s) = set a s

namespace Slot

variable {σ α β : Type}

/-- The state with its part changed. -/
def modify (slot : Slot σ α) (f : α → α) (s : σ) : σ := slot.set (f (slot.get s)) s

@[simp] theorem get_modify (slot : Slot σ α) (f : α → α) (s : σ) :
    slot.get (slot.modify f s) = f (slot.get s) :=
  slot.get_set _ _

/-- A part of a part. -/
def comp (outer : Slot σ α) (inner : Slot α β) : Slot σ β where
  get := fun s => inner.get (outer.get s)
  set := fun b s => outer.set (inner.set b (outer.get s)) s
  get_set := fun b s => by simp [outer.get_set, inner.get_set]
  set_get := fun s => by simp [inner.set_get, outer.set_get]
  set_set := fun a b s => by simp [outer.get_set, inner.set_set, outer.set_set]

/-- Changing a part of a part changes the part. -/
theorem get_modify_comp (outer : Slot σ α) (inner : Slot α β) (f : β → β) (s : σ) :
    outer.get ((outer.comp inner).modify f s) = inner.modify f (outer.get s) :=
  outer.get_set _ s

/-- The value of a function at one place. -/
def point {κ : Type} [DecidableEq κ] (key : κ) : Slot (κ → α) α where
  get := fun f => f key
  set := fun a f k => if k = key then a else f k
  get_set := fun _ _ => by simp
  set_get := fun f => by funext k; by_cases h : k = key <;> simp [h]
  set_set := fun _ _ f => by funext k; by_cases h : k = key <;> simp [h]

/-- The first of two states. -/
def first : Slot (α × β) α where
  get := Prod.fst
  set := fun a s => (a, s.2)
  get_set := fun _ _ => rfl
  set_get := fun _ => rfl
  set_set := fun _ _ _ => rfl

end Slot

/-! ## What a part finds around it

Parts of a gateway read a clock, draw fresh values, post events and send messages.
How this is done is left open: events may reach observers and messages may reach
other parts that act on the same state before the call returns. -/

/-- Clock, fresh values, events and messages of a part that lives in a state `σ`. -/
structure Surroundings (σ : Type) where
  now : σ → Millis
  /-- A value that was never drawn before. -/
  draw : σ → Block 16 × σ
  /-- Posts an event and gives it back as the observers left it. -/
  post : (kind : EventKind) → Event kind → σ → Event kind × σ
  /-- Sends bytes on a channel. -/
  send : (channel : String) → Bytes → σ → Except ChannelError Unit × σ

end GameGateway
