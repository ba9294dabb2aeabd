import GameGateway.Control.Endpoint

/-!
# Quiet surroundings

The surroundings of a part are quiet if nothing the part asks of them comes back to
it: drawing a value, posting an event and sending a message leave the part and the
clock as they are, and the clock does not depend on the part.  Surroundings that are
quiet for a part are quiet for each part of it.  Less is asked of surroundings that only
spare the part: they may do what they like to the clock.

`Alone` is the smallest state with quiet surroundings: a clock and the part.
-/

namespace GameGateway

variable {σ α β : Type}

/-- The surroundings leave a part and the clock alone. -/
structure Surroundings.Quiet (env : Surroundings σ) (slot : Slot σ α) : Prop where
  now_set : ∀ a s, env.now (slot.set a s) = env.now s
  draw : ∀ s, slot.get (env.draw s).2 = slot.get s ∧ env.now (env.draw s).2 = env.now s
  post : ∀ kind event s, slot.get (env.post kind event s).2 = slot.get s ∧
    env.now (env.post kind event s).2 = env.now s
  send : ∀ channel bytes s, slot.get (env.send channel bytes s).2 = slot.get s ∧
    env.now (env.send channel bytes s).2 = env.now s

namespace Surroundings.Quiet

variable {env : Surroundings σ} {slot : Slot σ α}

theorem now_modify (h : env.Quiet slot) (f : α → α) (s : σ) :
    env.now (slot.modify f s) = env.now s :=
  h.now_set _ _

theorem comp (h : env.Quiet slot) (inner : Slot α β) : env.Quiet (slot.comp inner) where
  now_set b s := h.now_set (inner.set b (slot.get s)) s
  draw s := ⟨congrArg inner.get (h.draw s).1, (h.draw s).2⟩
  post kind event s := ⟨congrArg inner.get (h.post kind event s).1, (h.post kind event s).2⟩
  send channel bytes s :=
    ⟨congrArg inner.get (h.send channel bytes s).1, (h.send channel bytes s).2⟩

end Surroundings.Quiet

/-! ## Surroundings that leave a part alone -/

/-- The surroundings leave a part alone, whatever they do to the clock and to the rest. -/
structure Surroundings.Spares (env : Surroundings σ) (slot : Slot σ α) : Prop where
  draw : ∀ s, slot.get (env.draw s).2 = slot.get s
  post : ∀ kind event s, slot.get (env.post kind event s).2 = slot.get s
  send : ∀ channel bytes s, slot.get (env.send channel bytes s).2 = slot.get s

theorem Surroundings.Quiet.spares {env : Surroundings σ} {slot : Slot σ α} (h : env.Quiet slot) :
    env.Spares slot where
  draw s := (h.draw s).1
  post kind event s := (h.post kind event s).1
  send channel bytes s := (h.send channel bytes s).1

theorem Surroundings.Spares.comp {env : Surroundings σ} {slot : Slot σ α} (h : env.Spares slot)
    (inner : Slot α β) : env.Spares (slot.comp inner) where
  draw s := congrArg inner.get (h.draw s)
  post kind event s := congrArg inner.get (h.post kind event s)
  send channel bytes s := congrArg inner.get (h.send channel bytes s)

/-- Surroundings that spare a part see to it that sending a control message changes nothing
of it but the count of rejected packets. -/
theorem ControlEndpoint.send_spares {env : Surroundings σ} {slot : Slot σ α}
    (h : env.Spares slot) (inner : Slot α ControlEndpoint) (kind : MessageKind) (payload : Bytes)
    (s : σ) : ∃ tally, slot.get (send env (slot.comp inner) kind payload s).2 =
      inner.modify (fun endpoint => { endpoint with rejects := tally }) (slot.get s) := by
  have hsame : ∀ s', slot.get s' = slot.get s → ∃ tally, slot.get s' =
      inner.modify (fun endpoint => { endpoint with rejects := tally }) (slot.get s) :=
    fun s' hs' => ⟨(inner.get (slot.get s)).rejects, by rw [hs', Slot.modify, inner.set_get]⟩
  unfold send
  dsimp only
  split
  · exact ⟨(inner.get (slot.get s)).rejects.add .outboundPayloadTooLarge, slot.get_set _ _⟩
  · split
    · exact hsame _ (h.draw s)
    · exact hsame _ ((h.send _ _ _).trans (h.draw s))

/-- Sending a control message in quiet surroundings changes nothing but the count of
rejected packets. -/
theorem ControlEndpoint.send_quiet {env : Surroundings σ} {slot : Slot σ α}
    (h : env.Quiet slot) (inner : Slot α ControlEndpoint) (kind : MessageKind) (payload : Bytes)
    (s : σ) :
    (∃ tally, slot.get (send env (slot.comp inner) kind payload s).2 =
        inner.modify (fun endpoint => { endpoint with rejects := tally }) (slot.get s)) ∧
      env.now (send env (slot.comp inner) kind payload s).2 = env.now s := by
  refine ⟨send_spares h.spares inner kind payload s, ?_⟩
  unfold send
  dsimp only
  split
  · exact h.now_set _ _
  · split
    · exact (h.draw s).2
    · exact (h.send _ _ _).2.trans (h.draw s).2

/-- A message that is not too long is sent without a trace at the sender. -/
theorem ControlEndpoint.get_send {env : Surroundings σ} {slot : Slot σ ControlEndpoint}
    (h : env.Spares slot) (kind : MessageKind) {payload : Bytes} {s : σ}
    (hfits : payload.length ≤ (slot.get s).config.maxPayload) :
    slot.get (send env slot kind payload s).2 = slot.get s := by
  unfold send
  dsimp only
  rw [if_neg (Nat.not_lt.mpr hfits)]
  split
  · exact h.draw s
  · exact (h.send _ _ _).trans (h.draw s)

/-! ## A part alone with a clock -/

/-- A part with a clock and nothing else. -/
structure Alone (α : Type) where
  clock : Millis
  part : α

namespace Alone

/-- The part. -/
def slot : Slot (Alone α) α where
  get := part
  set := fun part s => { s with part := part }
  get_set := fun _ _ => rfl
  set_get := fun _ => rfl
  set_set := fun _ _ _ => rfl

/-- The value that is drawn. -/
def fresh : Nonce := ⟨List.replicate 16 0, rfl⟩

/-- Surroundings in which every message is sent and nobody hears of it; the fresh
values are all the same. -/
def env : Surroundings (Alone α) where
  now := clock
  draw := fun s => (fresh, s)
  post := fun _ event s => (event, s)
  send := fun _ _ s => (.ok (), s)

theorem quiet : (env : Surroundings (Alone α)).Quiet slot where
  now_set _ _ := rfl
  draw _ := ⟨rfl, rfl⟩
  post _ _ _ := ⟨rfl, rfl⟩
  send _ _ _ := ⟨rfl, rfl⟩

end Alone

end GameGateway
