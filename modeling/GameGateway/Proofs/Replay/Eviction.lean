import GameGateway.Guard.ReplayWindow
import GameGateway.Proofs.Entries

/-!
# What a presentation does to a replay window

A presentation sweeps, looks its key up, and then either marks the key as seen or
stores it anew and gives up keys until the window holds no more than it may.  This
file says what each of these does to the view `get?` of the remembered keys:

* `get?_sweep`: a sweep forgets only keys whose window is over;
* `get?_evict`, `size_evict`: eviction changes nothing but to forget as many keys
  as it is told to;
* `lastSeen_le_of_evicted`: a key that is given up was seen no later than any key
  that stays;
* `register_eq_of_blocked`, `register_eq_of_free`: which of the two ways a
  presentation goes.
-/

namespace GameGateway.ReplayWindow

variable {κ : Type}

/-! ## The key seen longest ago -/

theorem older_mem (a b : κ × Sighting) : older a b = a ∨ older a b = b := by
  unfold older
  split
  · exact Or.inr rfl
  · exact Or.inl rfl

theorem older_le (a b : κ × Sighting) :
    (older a b).2.lastSeen ≤ a.2.lastSeen ∧ (older a b).2.lastSeen ≤ b.2.lastSeen := by
  unfold older
  split
  · rename_i hlt
    exact ⟨Int64.le_of_lt hlt, Int64.le_refl _⟩
  · rename_i hlt
    exact ⟨Int64.le_refl _, Int64.not_lt.mp hlt⟩

/-- Folding `older` over a list finds one of its entries, and none was seen before it. -/
theorem foldl_older (first : κ × Sighting) (rest : List (κ × Sighting)) :
    rest.foldl older first ∈ first :: rest ∧
      ∀ entry ∈ first :: rest, (rest.foldl older first).2.lastSeen ≤ entry.2.lastSeen := by
  induction rest generalizing first with
  | nil =>
      refine ⟨List.mem_singleton_self first, fun entry hentry => ?_⟩
      rw [List.mem_singleton.mp hentry]
      exact Int64.le_refl _
  | cons next rest ih =>
      obtain ⟨hmem, hle⟩ := ih (older first next)
      have hbest : (rest.foldl older (older first next)).2.lastSeen ≤
          (older first next).2.lastSeen := hle _ (List.mem_cons_self ..)
      refine ⟨?_, fun entry hentry => ?_⟩
      · rcases List.mem_cons.mp hmem with heq | hrest
        · rw [List.foldl_cons, heq]
          rcases older_mem first next with h | h <;> simp [h]
        · exact List.mem_cons_of_mem _ (List.mem_cons_of_mem _ hrest)
      · rcases List.mem_cons.mp hentry with rfl | hentry
        · exact Int64.le_trans hbest (older_le entry next).1
        · rcases List.mem_cons.mp hentry with rfl | hentry
          · exact Int64.le_trans hbest (older_le first entry).2
          · exact hle entry (List.mem_cons_of_mem _ hentry)

theorem oldest?_eq_none {sightings : Table κ Sighting} (h : oldest? sightings = none) :
    sightings.size = 0 := by
  unfold oldest? at h
  split at h
  · rename_i hentries
    exact Table.size_eq_zero_iff.mpr hentries
  · cases h

variable [DecidableEq κ]

theorem oldest?_eq_some {sightings : Table κ Sighting} {key : κ}
    (h : oldest? sightings = some key) :
    ∃ seen, sightings.get? key = some seen ∧
      ∀ k other, sightings.get? k = some other → seen.lastSeen ≤ other.lastSeen := by
  unfold oldest? at h
  split at h
  · cases h
  · rename_i first rest hentries
    cases h
    obtain ⟨hmem, hle⟩ := foldl_older first rest
    rw [← hentries] at hmem hle
    refine ⟨(rest.foldl older first).2, Table.mem_entries_iff.mp hmem, fun k other hother => ?_⟩
    exact hle (k, other) (Table.mem_entries_iff.mpr hother)

/-! ## Eviction -/

theorem get?_evict (count : Nat) (sightings : Table κ Sighting) (k : κ) :
    (evict count sightings).get? k = sightings.get? k ∨
      (evict count sightings).get? k = none := by
  induction count generalizing sightings with
  | zero => exact Or.inl rfl
  | succ count ih =>
      unfold evict
      split
      · exact Or.inl rfl
      · rename_i key _
        rcases ih (sightings.erase key) with h | h
        · rw [h, Table.get?_erase]
          split
          · exact Or.inr rfl
          · exact Or.inl rfl
        · exact Or.inr h

theorem get?_of_get?_evict {count : Nat} {sightings : Table κ Sighting} {k : κ} {seen : Sighting}
    (h : (evict count sightings).get? k = some seen) : sightings.get? k = some seen := by
  rcases get?_evict count sightings k with heq | heq
  · rw [← heq, h]
  · rw [heq] at h
    cases h

theorem size_evict (count : Nat) (sightings : Table κ Sighting) :
    (evict count sightings).size = sightings.size - count := by
  induction count generalizing sightings with
  | zero => rfl
  | succ count ih =>
      unfold evict
      split
      · rename_i hnone
        rw [oldest?_eq_none hnone, Nat.zero_sub]
      · rename_i key hsome
        obtain ⟨seen, hseen, -⟩ := oldest?_eq_some hsome
        rw [ih, Table.size_erase hseen]
        omega

/-- A key that eviction gives up was seen no later than any key that it keeps. -/
theorem lastSeen_le_of_evicted {count : Nat} {sightings : Table κ Sighting} {key k : κ}
    {seen other : Sighting} (hseen : sightings.get? key = some seen)
    (hgone : (evict count sightings).get? key = none)
    (hkept : (evict count sightings).get? k = some other) : seen.lastSeen ≤ other.lastSeen := by
  induction count generalizing sightings with
  | zero =>
      have hnone : sightings.get? key = none := hgone
      rw [hseen] at hnone
      cases hnone
  | succ count ih =>
      cases hold : oldest? sightings with
      | none =>
          simp only [evict, hold] at hgone
          rw [hseen] at hgone
          cases hgone
      | some first =>
          simp only [evict, hold] at hgone hkept
          by_cases hfirst : key = first
          · -- The key goes first, so it is the one seen longest ago of all.
            subst hfirst
            obtain ⟨oldest, holdest, hle⟩ := oldest?_eq_some hold
            rw [hseen] at holdest
            cases holdest
            have hother := get?_of_get?_evict hkept
            rw [Table.get?_erase] at hother
            split at hother
            · cases hother
            · exact hle k other hother
          · exact ih (by rw [Table.get?_erase, if_neg hfirst, hseen]) hgone hkept

/-! ## Sweeps -/

omit [DecidableEq κ] in
@[simp] theorem config_sweep (w : ReplayWindow κ) (now : Millis) :
    (w.sweep now).config = w.config := by
  unfold sweep
  split <;> rfl

/-- A sweep forgets only keys whose window is over. -/
theorem get?_sweep (w : ReplayWindow κ) (now : Millis) (k : κ) :
    (w.sweep now).sightings.get? k = w.sightings.get? k ∨
      (w.sweep now).sightings.get? k = none ∧
        ∃ seen, w.sightings.get? k = some seen ∧ seen.expiresAt ≤ now := by
  unfold sweep
  split
  · exact Or.inl rfl
  · simp only [Table.get?_filter]
    cases hget : w.sightings.get? k with
    | none => exact Or.inl rfl
    | some seen =>
        by_cases hlt : now < seen.expiresAt
        · exact Or.inl (by simp [Option.filter, hlt])
        · exact Or.inr ⟨by simp [Option.filter, hlt], seen, rfl, Int64.not_lt.mp hlt⟩

theorem get?_of_get?_sweep {w : ReplayWindow κ} {now : Millis} {k : κ} {seen : Sighting}
    (h : (w.sweep now).sightings.get? k = some seen) : w.sightings.get? k = some seen := by
  rcases get?_sweep w now k with heq | ⟨heq, -⟩
  · rw [← heq, h]
  · rw [heq] at h
    cases h

/-! ## Presentations -/

/-- The window with a key marked as seen, when its sighting was the given one. -/
def refresh (w : ReplayWindow κ) (now : Millis) (key : κ) (seen : Sighting) : ReplayWindow κ :=
  { w with sightings := w.sightings.insert key { seen with lastSeen := now } }

/-- The window with a key stored anew, before keys are given up for it. -/
def store (w : ReplayWindow κ) (now : Millis) (key : κ) : ReplayWindow κ :=
  { w with sightings := w.sightings.insert key ⟨now.saturatingAdd w.config.window, now⟩ }

/-- The window with as many keys given up as it holds too many. -/
def trim (w : ReplayWindow κ) : ReplayWindow κ :=
  { w with sightings := evict (w.sightings.size - w.config.maxEntries) w.sightings }

theorem accept_eq (w : ReplayWindow κ) (now : Millis) (key : κ) :
    w.accept now key = (w.store now key).trim := rfl

/-- Is the key refused? -/
def Blocks (w : ReplayWindow κ) (now : Millis) (key : κ) : Prop :=
  ∃ seen, w.sightings.get? key = some seen ∧ now < seen.expiresAt

/-- Whether a key is refused does not depend on whether there is a sweep first. -/
theorem blocks_sweep_iff {w : ReplayWindow κ} {now : Millis} {key : κ} :
    (w.sweep now).Blocks now key ↔ w.Blocks now key := by
  constructor
  · rintro ⟨seen, hseen, hlt⟩
    exact ⟨seen, get?_of_get?_sweep hseen, hlt⟩
  · rintro ⟨seen, hseen, hlt⟩
    rcases get?_sweep w now key with heq | ⟨-, other, hother, hle⟩
    · exact ⟨seen, by rw [heq, hseen], hlt⟩
    · rw [hseen] at hother
      cases hother
      exact absurd hlt (Int64.not_lt.mpr hle)

theorem register_eq_of_blocked {w : ReplayWindow κ} {now : Millis} {key : κ} {seen : Sighting}
    (hseen : (w.sweep now).sightings.get? key = some seen) (hlt : now < seen.expiresAt) :
    w.register now key = (false, (w.sweep now).refresh now key seen) := by
  simp only [register, hseen, hlt, ↓reduceIte, refresh]

theorem register_eq_of_free {w : ReplayWindow κ} {now : Millis} {key : κ}
    (h : ¬ w.Blocks now key) : w.register now key = (true, ((w.sweep now).store now key).trim) := by
  rw [← blocks_sweep_iff] at h
  unfold register
  cases hget : (w.sweep now).sightings.get? key with
  | none => simp only [hget, accept_eq]
  | some seen =>
      have hlt : ¬ now < seen.expiresAt := fun hlt => h ⟨seen, hget, hlt⟩
      simp only [hget, hlt, ↓reduceIte, accept_eq]

/-- A presentation is refused exactly when its key is still in its window. -/
theorem register_fst_eq_false_iff {w : ReplayWindow κ} {now : Millis} {key : κ} :
    (w.register now key).1 = false ↔ w.Blocks now key := by
  by_cases h : w.Blocks now key
  · obtain ⟨seen, hseen, hlt⟩ := blocks_sweep_iff.mpr h
    simp [register_eq_of_blocked hseen hlt, h]
  · simp [register_eq_of_free h, h]

@[simp] theorem config_register (w : ReplayWindow κ) (now : Millis) (key : κ) :
    (w.register now key).2.config = w.config := by
  by_cases h : w.Blocks now key
  · obtain ⟨seen, hseen, hlt⟩ := blocks_sweep_iff.mpr h
    simp [register_eq_of_blocked hseen hlt, refresh]
  · simp [register_eq_of_free h, trim, store]

end GameGateway.ReplayWindow
