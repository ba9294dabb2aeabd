import GameGateway.Proofs.Replay.Runs

/-!
# What a full replay window gives up

Here the clock may do what it likes; it may go back from one presentation to the next.

A window has two ways to forget a key.  A sweep forgets the keys whose window is over.  After
an acceptance the window holds one key more than before at most, and if that is one too many,
it gives one up (`exists_evicted_of_size_eq`).  A presentation that is refused gives up none:
its key was there already.

The key that is given up is one that was presented longest ago, where only the last
presentation of each key counts.  That is so because every presentation dates the sighting of
its key, be it accepted or refused, and nothing else does (`Dated`).  With a clock that goes
back this can be the key for which room was made.
-/

namespace GameGateway.ReplayWindow

variable {κ : Type} [DecidableEq κ]

/-- What the clock showed when a key was presented last in a run. -/
def lastPresented? (calls : List (Presentation κ)) (key : κ) : Option Millis :=
  (calls.reverse.find? fun p => p.key = key).map Presentation.time

theorem lastPresented?_concat (calls : List (Presentation κ)) (p : Presentation κ) (key : κ) :
    lastPresented? (calls ++ [p]) key =
      if key = p.key then some p.time else lastPresented? calls key := by
  unfold lastPresented?
  rw [List.reverse_concat, List.find?_cons]
  by_cases hsame : p.key = key
  · simp [hsame]
  · simp [hsame, Ne.symm hsame]

/-- The keys that a window holds when a key has been presented and none has been given up yet:
what the sweep has left, and the key itself. -/
def held (w : ReplayWindow κ) (now : Millis) (key : κ) : Finset κ :=
  insert key (w.sweep now).sightings.keySet

/-- A key is swept only if its window is over. -/
theorem mem_held {w : ReplayWindow κ} {now : Millis} {k : κ} {seen : Sighting}
    (hseen : w.sightings.get? k = some seen) (hlasts : now < seen.expiresAt) (key : κ) :
    k ∈ w.held now key := by
  apply Finset.mem_insert_of_mem
  rw [Table.mem_keySet]
  rcases get?_sweep w now k with hsame | ⟨-, other, hother, hover⟩
  · exact ⟨seen, by rw [hsame, hseen]⟩
  · rw [hseen] at hother
    cases hother
    exact absurd hlasts (Int64.not_lt.mpr hover)

/-! ## Giving up -/

variable {w : ReplayWindow κ} {calls : List (Presentation κ)} {now : Millis} {key : κ}

theorem trim_of_size_le (h : w.size ≤ w.config.maxEntries) : w.trim = w := by
  have hnone : w.sightings.size - w.config.maxEntries = 0 := Nat.sub_eq_zero_of_le h
  rw [trim, hnone, evict]

theorem size_trim_le (w : ReplayWindow κ) : w.trim.size ≤ w.config.maxEntries := by
  have hsize : w.trim.size = w.sightings.size - (w.sightings.size - w.config.maxEntries) :=
    size_evict _ _
  omega

/-- A window with one key too many gives up one that was seen no later than any other. -/
theorem exists_evicted_of_size_eq (h : w.size = w.config.maxEntries + 1) :
    ∃ key seen, w.sightings.get? key = some seen ∧
      (∀ k other, w.sightings.get? k = some other → seen.lastSeen ≤ other.lastSeen) ∧
      w.trim.sightings = w.sightings.erase key := by
  have hsize : w.sightings.size = w.config.maxEntries + 1 := h
  have hone : w.sightings.size - w.config.maxEntries = 1 := by omega
  cases holdest : oldest? w.sightings with
  | none =>
      have hempty := oldest?_eq_none holdest
      omega
  | some key =>
      obtain ⟨seen, hseen, hle⟩ := oldest?_eq_some holdest
      refine ⟨key, seen, hseen, hle, ?_⟩
      show evict (w.sightings.size - w.config.maxEntries) w.sightings = w.sightings.erase key
      rw [hone]
      simp only [evict, holdest]

/-! ## Sightings are dated by presentations -/

/-- The sighting of every remembered key bears the date of its last presentation. -/
def Dated (w : ReplayWindow κ) (calls : List (Presentation κ)) : Prop :=
  ∀ key seen, w.sightings.get? key = some seen → lastPresented? calls key = some seen.lastSeen

namespace Dated

theorem initial (config : ReplayConfig) (opened : Millis) :
    Dated (new config opened : ReplayWindow κ) [] := by
  intro key seen hseen
  simp [new] at hseen

protected theorem sweep (h : Dated w calls) (now : Millis) : Dated (w.sweep now) calls := by
  intro key seen hseen
  exact h key seen (get?_of_get?_sweep hseen)

protected theorem insert (h : Dated w calls) (now : Millis) (key : κ) (expiry : Millis) :
    Dated { w with sightings := w.sightings.insert key ⟨expiry, now⟩ }
      (calls ++ [⟨now, key⟩]) := by
  intro k seen hseen
  rw [Table.get?_insert] at hseen
  rw [lastPresented?_concat]
  split at hseen
  · rename_i hkey
    cases hseen
    rw [if_pos hkey]
  · rename_i hother
    rw [if_neg hother]
    exact h k seen hseen

protected theorem trim (h : Dated w calls) : Dated w.trim calls := by
  intro key seen hseen
  exact h key seen (get?_of_get?_evict hseen)

protected theorem register (h : Dated w calls) (p : Presentation κ) :
    Dated (w.register p.time p.key).2 (calls ++ [p]) := by
  by_cases hblocks : w.Blocks p.time p.key
  · obtain ⟨seen, hseen, hlasts⟩ := blocks_sweep_iff.mpr hblocks
    rw [register_eq_of_blocked hseen hlasts]
    exact (h.sweep p.time).insert p.time p.key seen.expiresAt
  · rw [register_eq_of_free hblocks]
    exact ((h.sweep p.time).insert p.time p.key _).trim

/-- A run keeps the dates right. -/
theorem after (config : ReplayConfig) (opened : Millis) (calls : List (Presentation κ)) :
    Dated ((new config opened : ReplayWindow κ).after calls) calls := by
  induction calls using List.reverseRecOn with
  | nil => exact initial config opened
  | append_singleton calls p ih =>
      rw [after_append]
      exact ih.register p

end Dated

/-! ## Presentations one after the other -/

omit [DecidableEq κ] in
theorem size_sweep_le (w : ReplayWindow κ) (now : Millis) : (w.sweep now).size ≤ w.size := by
  unfold sweep
  split
  · exact Nat.le_refl _
  · exact Table.size_filter_le _ _

/-- A refused key is among those that the sweep has left. -/
theorem keySet_of_blocked (h : w.Blocks now key) :
    (w.register now key).2.sightings.keySet = w.held now key := by
  obtain ⟨seen, hseen, hlasts⟩ := blocks_sweep_iff.mpr h
  rw [register_eq_of_blocked hseen hlasts]
  exact Table.keySet_insert _ key _

theorem card_held_of_blocked (h : w.Blocks now key) :
    (w.held now key).card = (w.sweep now).size := by
  obtain ⟨seen, hseen, -⟩ := blocks_sweep_iff.mpr h
  rw [held, Finset.insert_eq_of_mem (Table.mem_keySet.mpr ⟨seen, hseen⟩), Table.card_keySet]
  rfl

theorem config_store (w : ReplayWindow κ) (now : Millis) (key : κ) :
    ((w.sweep now).store now key).config = w.config :=
  config_sweep w now

theorem keySet_store (w : ReplayWindow κ) (now : Millis) (key : κ) :
    ((w.sweep now).store now key).sightings.keySet = w.held now key :=
  Table.keySet_insert _ key _

theorem size_store (w : ReplayWindow κ) (now : Millis) (key : κ) :
    ((w.sweep now).store now key).size = (w.held now key).card := by
  rw [← keySet_store, Table.card_keySet]
  rfl

/-- No presentation makes a window hold more keys than it may. -/
theorem size_register_le (h : w.size ≤ w.config.maxEntries) (now : Millis) (key : κ) :
    (w.register now key).2.size ≤ w.config.maxEntries := by
  by_cases hblocks : w.Blocks now key
  · calc (w.register now key).2.size
        = (w.held now key).card := by
          rw [← keySet_of_blocked hblocks, Table.card_keySet]
          rfl
      _ = (w.sweep now).size := card_held_of_blocked hblocks
      _ ≤ w.size := size_sweep_le w now
      _ ≤ w.config.maxEntries := h
  · rw [register_eq_of_free hblocks]
    have hsize := size_trim_le ((w.sweep now).store now key)
    rw [config_store] at hsize
    exact hsize

theorem size_after_le (config : ReplayConfig) (opened : Millis) (calls : List (Presentation κ)) :
    ((new config opened : ReplayWindow κ).after calls).size ≤ config.validated.maxEntries := by
  induction calls using List.reverseRecOn with
  | nil => exact Nat.zero_le _
  | append_singleton calls p ih =>
      have hsize := size_register_le ((config_after_new config opened calls).symm ▸ ih) p.time p.key
      rw [config_after_new] at hsize
      rw [after_append]
      exact hsize

/-- A presentation adds one key at most. -/
theorem card_held_le (w : ReplayWindow κ) (now : Millis) (key : κ) :
    (w.held now key).card ≤ w.size + 1 := by
  calc (w.held now key).card
      ≤ (w.sweep now).sightings.keySet.card + 1 := Finset.card_insert_le _ _
    _ = (w.sweep now).size + 1 := by rw [Table.card_keySet]; rfl
    _ ≤ w.size + 1 := Nat.add_le_add_right (size_sweep_le w now) 1

/-- With room for all keys that are held, none is given up. -/
theorem keySet_register_of_le (h : (w.held now key).card ≤ w.config.maxEntries) :
    (w.register now key).2.sightings.keySet = w.held now key := by
  by_cases hblocks : w.Blocks now key
  · exact keySet_of_blocked hblocks
  · have hfits : ((w.sweep now).store now key).size ≤
        ((w.sweep now).store now key).config.maxEntries := by
      rw [size_store, config_store]
      exact h
    rw [register_eq_of_free hblocks, trim_of_size_le hfits, keySet_store]

/-- With one key too many, one that was presented longest ago is given up. -/
theorem keySet_register_of_lt {p : Presentation κ} (hdated : Dated w calls)
    (hsize : w.size ≤ w.config.maxEntries)
    (h : w.config.maxEntries < (w.held p.time p.key).card) :
    ∃ oldest ∈ w.held p.time p.key, ∃ since, lastPresented? (calls ++ [p]) oldest = some since ∧
      (∀ k ∈ w.held p.time p.key, ∃ seen, lastPresented? (calls ++ [p]) k = some seen ∧
        since ≤ seen) ∧
      (w.register p.time p.key).2.sightings.keySet = (w.held p.time p.key).erase oldest := by
  have hfree : ¬ w.Blocks p.time p.key := by
    intro hblocks
    rw [card_held_of_blocked hblocks] at h
    have hswept := size_sweep_le w p.time
    omega
  have hmany : ((w.sweep p.time).store p.time p.key).size =
      ((w.sweep p.time).store p.time p.key).config.maxEntries + 1 := by
    have hone := card_held_le w p.time p.key
    rw [size_store, config_store]
    omega
  have hstored : Dated ((w.sweep p.time).store p.time p.key) (calls ++ [p]) :=
    (hdated.sweep p.time).insert p.time p.key _
  obtain ⟨oldest, since, hsince, hle, hgone⟩ := exists_evicted_of_size_eq hmany
  rw [← keySet_store w p.time p.key]
  refine ⟨oldest, Table.mem_keySet.mpr ⟨since, hsince⟩, since.lastSeen,
    hstored oldest since hsince, ?_, ?_⟩
  · intro k hk
    obtain ⟨seen, hseen⟩ := Table.mem_keySet.mp hk
    exact ⟨seen.lastSeen, hstored k seen hseen, hle k seen hseen⟩
  · rw [register_eq_of_free hfree, hgone, Table.keySet_erase]

/-! ## The keys that stay -/

/-- **What a replay window gives up.**  In any run, whatever its clock does: after each
presentation the window holds no more keys than it may.  A key that is there before and not
among those held then has been swept, and its window is over.  Of the keys held none is given
up by a presentation that is refused, or if the window has room for them all.  Otherwise one
is given up, and no key that is held was presented last before it was. -/
theorem capacity_exact (config : ReplayConfig) (opened : Millis) (calls : List (Presentation κ))
    (p : Presentation κ) :
    let w : ReplayWindow κ := (new config opened).after calls
    let w' : ReplayWindow κ := (w.register p.time p.key).2
    (new config opened).after (calls ++ [p]) = w' ∧
    w'.size ≤ config.validated.maxEntries ∧
    (∀ key seen, w.sightings.get? key = some seen → p.time < seen.expiresAt →
      key ∈ w.held p.time p.key) ∧
    ((w.register p.time p.key).1 = false → w'.sightings.keySet = w.held p.time p.key) ∧
    ((w.held p.time p.key).card ≤ config.validated.maxEntries →
      w'.sightings.keySet = w.held p.time p.key) ∧
    (config.validated.maxEntries < (w.held p.time p.key).card →
      ∃ oldest ∈ w.held p.time p.key, ∃ since,
        lastPresented? (calls ++ [p]) oldest = some since ∧
        (∀ key ∈ w.held p.time p.key, ∃ seen,
          lastPresented? (calls ++ [p]) key = some seen ∧ since ≤ seen) ∧
        w'.sightings.keySet = (w.held p.time p.key).erase oldest) := by
  intro w w'
  have hconfig : w.config = config.validated := config_after_new config opened calls
  have hsize : w.size ≤ w.config.maxEntries := by
    rw [hconfig]
    exact size_after_le config opened calls
  rw [← hconfig]
  refine ⟨after_append _ calls [p], size_register_le hsize p.time p.key, ?_, ?_,
    keySet_register_of_le, keySet_register_of_lt (Dated.after config opened calls) hsize⟩
  · intro key seen hseen hlasts
    exact mem_held hseen hlasts p.key
  · intro hrefused
    exact keySet_of_blocked (register_fst_eq_false_iff.mp hrefused)

/-- With a clock that goes back, the key that makes room necessary is given up itself. -/
example : (((new ⟨100, 1⟩ 0).after [⟨50, 7⟩, ⟨20, 8⟩]).sightings.keys) = [7] := by decide

end GameGateway.ReplayWindow
