import GameGateway.Proofs.Replay.Eviction
import GameGateway.Proofs.Saturation

/-!
# What a replay window knows of its past

The past of a window is the list of the presentations made to it, each with its
answer.  `Tracks` says how the two belong together while the clock stands at `now`:

* every remembered key was accepted at some point of the past, its sighting ends
  one window after that, and its last sighting was a presentation (`granted`,
  `presented`);
* every accepted presentation is still remembered, or its window is over, or so
  many other keys were presented since that the window had to give it up (`held`).

The second half is what makes a refusal certain: it is the only place where a key
that was accepted can get lost.  Every part of a presentation keeps the invariant
(`Tracks.sweep`, `Tracks.refresh`, `Tracks.store`, `Tracks.trim`), and hence a
presentation as a whole does (`Tracks.register`).
-/

namespace GameGateway.ReplayWindow

/-- A key that is presented at an instant. -/
structure Presentation (κ : Type) where
  time : Millis
  key : κ
deriving DecidableEq

/-- A presentation with the answer to it. -/
structure Answered (κ : Type) extends Presentation κ where
  accepted : Bool
deriving DecidableEq

variable {κ : Type}

/-- The instant at which the window of a presentation is over. -/
def Presentation.over (span : Millis) (p : Presentation κ) : Millis := p.time.saturatingAdd span

/-- At least `count` keys other than that of `a` were presented since `a`. -/
def Crowded [DecidableEq κ] (count : Nat) (past : List (Answered κ)) (a : Answered κ) : Prop :=
  ∃ keys : Finset κ, keys.card = count ∧ a.key ∉ keys ∧
    ∀ k ∈ keys, ∃ p ∈ past, p.key = k ∧ a.time ≤ p.time

variable [DecidableEq κ]

/-- The accepted presentation `a` still has its sighting. -/
def Remembers (w : ReplayWindow κ) (a : Answered κ) : Prop :=
  ∃ seen, w.sightings.get? a.key = some seen ∧
    a.over w.config.window ≤ seen.expiresAt ∧ a.time ≤ seen.lastSeen

/-- The window belongs to the given past while the clock stands at `now`. -/
structure Tracks (w : ReplayWindow κ) (past : List (Answered κ)) (now : Millis) : Prop where
  past_le : ∀ p ∈ past, p.time ≤ now
  granted : ∀ key seen, w.sightings.get? key = some seen →
    ∃ a ∈ past, a.accepted = true ∧ a.key = key ∧ seen.expiresAt = a.over w.config.window
  presented : ∀ key seen, w.sightings.get? key = some seen →
    ∃ p ∈ past, p.key = key ∧ p.time = seen.lastSeen
  held : ∀ a ∈ past, a.accepted = true →
    w.Remembers a ∨ a.over w.config.window ≤ now ∨ Crowded w.config.maxEntries past a

theorem Crowded.append {count : Nat} {past : List (Answered κ)} {a : Answered κ}
    (h : Crowded count past a) (more : List (Answered κ)) : Crowded count (past ++ more) a := by
  obtain ⟨keys, hcard, hnot, hkeys⟩ := h
  refine ⟨keys, hcard, hnot, fun k hk => ?_⟩
  obtain ⟨p, hp, hkey, hle⟩ := hkeys k hk
  exact ⟨p, List.mem_append_left _ hp, hkey, hle⟩

namespace Tracks

variable {w : ReplayWindow κ} {past : List (Answered κ)} {now : Millis}

/-- A new window belongs to the empty past. -/
theorem initial (config : ReplayConfig) (opened now : Millis) :
    Tracks (new config opened : ReplayWindow κ) [] now where
  past_le := by simp
  granted := by simp [new]
  presented := by simp [new]
  held := by simp

theorem later {then' : Millis} (h : Tracks w past now) (hle : now ≤ then') :
    Tracks w past then' where
  past_le p hp := Int64.le_trans (h.past_le p hp) hle
  granted := h.granted
  presented := h.presented
  held a ha hacc := by
    rcases h.held a ha hacc with hheld | hover | hcrowd
    · exact Or.inl hheld
    · exact Or.inr (Or.inl (Int64.le_trans hover hle))
    · exact Or.inr (Or.inr hcrowd)

protected theorem sweep (h : Tracks w past now) : Tracks (w.sweep now) past now where
  past_le := h.past_le
  granted key seen hseen := by
    rw [config_sweep]
    exact h.granted key seen (get?_of_get?_sweep hseen)
  presented key seen hseen := h.presented key seen (get?_of_get?_sweep hseen)
  held a ha hacc := by
    rw [config_sweep]
    rcases h.held a ha hacc with ⟨seen, hseen, hover, hlast⟩ | hrest
    · rcases get?_sweep w now a.key with heq | ⟨-, other, hother, hle⟩
      · left
        exact ⟨seen, by rw [heq, hseen], by rwa [config_sweep], hlast⟩
      · rw [hseen] at hother
        cases hother
        exact Or.inr (Or.inl (Int64.le_trans hover hle))
    · exact Or.inr hrest

/-! ### A key is marked or stored

Both put a sighting in and a presentation at the end of the past. -/

section Insert

variable {key : κ} {accepted : Bool} {expiry : Millis}

theorem past_le_snoc (h : Tracks w past now) :
    ∀ p ∈ past ++ [⟨⟨now, key⟩, accepted⟩], p.time ≤ now := by
  intro p hp
  rcases List.mem_append.mp hp with hp | hp
  · exact h.past_le p hp
  · rw [List.mem_singleton.mp hp]
    exact Int64.le_refl _

theorem granted_insert (h : Tracks w past now)
    (hgranted : ∃ a ∈ past ++ [⟨⟨now, key⟩, accepted⟩],
      a.accepted = true ∧ a.key = key ∧ expiry = a.over w.config.window) :
    ∀ k seen, (w.sightings.insert key ⟨expiry, now⟩).get? k = some seen →
      ∃ a ∈ past ++ [⟨⟨now, key⟩, accepted⟩],
        a.accepted = true ∧ a.key = k ∧ seen.expiresAt = a.over w.config.window := by
  intro k seen hseen
  rw [Table.get?_insert] at hseen
  split at hseen
  · rename_i hk
    cases hseen
    rw [hk]
    exact hgranted
  · obtain ⟨a, ha, hrest⟩ := h.granted k seen hseen
    exact ⟨a, List.mem_append_left _ ha, hrest⟩

theorem presented_insert (h : Tracks w past now) :
    ∀ k seen, (w.sightings.insert key ⟨expiry, now⟩).get? k = some seen →
      ∃ p ∈ past ++ [⟨⟨now, key⟩, accepted⟩], p.key = k ∧ p.time = seen.lastSeen := by
  intro k seen hseen
  rw [Table.get?_insert] at hseen
  split at hseen
  · rename_i hk
    cases hseen
    exact ⟨_, List.mem_append_right _ (List.mem_singleton_self _), hk.symm, rfl⟩
  · obtain ⟨p, hp, hrest⟩ := h.presented k seen hseen
    exact ⟨p, List.mem_append_left _ hp, hrest⟩

protected theorem refresh {seen : Sighting} (h : Tracks w past now)
    (hseen : w.sightings.get? key = some seen) :
    Tracks (w.refresh now key seen) (past ++ [⟨⟨now, key⟩, false⟩]) now where
  past_le := h.past_le_snoc
  granted := by
    obtain ⟨a, ha, hrest⟩ := h.granted key seen hseen
    exact h.granted_insert ⟨a, List.mem_append_left _ ha, hrest⟩
  presented := h.presented_insert
  held a ha hacc := by
    rcases List.mem_append.mp ha with ha | ha
    · rcases h.held a ha hacc with ⟨other, hother, hover, hlast⟩ | hover | hcrowd
      · left
        simp only [Remembers, ReplayWindow.refresh, Table.get?_insert]
        split
        · rename_i hk
          rw [hk, hseen] at hother
          cases hother
          exact ⟨_, rfl, hover, h.past_le a ha⟩
        · exact ⟨other, hother, hover, hlast⟩
      · exact Or.inr (Or.inl hover)
      · exact Or.inr (Or.inr (hcrowd.append _))
    · rw [List.mem_singleton.mp ha] at hacc
      cases hacc

protected theorem store (h : Tracks w past now) (hfree : ¬ w.Blocks now key) :
    Tracks (w.store now key) (past ++ [⟨⟨now, key⟩, true⟩]) now where
  past_le := h.past_le_snoc
  granted := h.granted_insert
    ⟨_, List.mem_append_right _ (List.mem_singleton_self _), rfl, rfl, rfl⟩
  presented := h.presented_insert
  held a ha hacc := by
    simp only [Remembers, ReplayWindow.store, Table.get?_insert]
    rcases List.mem_append.mp ha with ha | ha
    · rcases h.held a ha hacc with ⟨other, hother, hover, hlast⟩ | hover | hcrowd
      · by_cases hk : a.key = key
        · -- The key is stored anew only because its window is over.
          right; left
          have hge : ¬ now < other.expiresAt := fun hlt => hfree ⟨other, hk ▸ hother, hlt⟩
          exact Int64.le_trans hover (Int64.not_lt.mp hge)
        · left
          rw [if_neg hk]
          exact ⟨other, hother, hover, hlast⟩
      · exact Or.inr (Or.inl hover)
      · exact Or.inr (Or.inr (hcrowd.append _))
    · left
      rw [List.mem_singleton.mp ha, if_pos rfl]
      exact ⟨_, rfl, Int64.le_refl _, Int64.le_refl _⟩

end Insert

/-! ### Keys are given up -/

/-- If a key is given up, then all those that stay were presented since. -/
theorem crowded_of_evicted {a : Answered κ} {seen : Sighting} (h : Tracks w past now)
    (hseen : w.sightings.get? a.key = some seen) (hlast : a.time ≤ seen.lastSeen)
    (hgone : w.trim.sightings.get? a.key = none) : Crowded w.config.maxEntries past a := by
  refine ⟨w.trim.sightings.keySet, ?_, ?_, fun k hk => ?_⟩
  · have hsize : w.trim.sightings.size =
        w.sightings.size - (w.sightings.size - w.config.maxEntries) := size_evict _ _
    have hmany : w.config.maxEntries ≤ w.sightings.size := by
      by_contra hfew
      have hcount : w.sightings.size - w.config.maxEntries = 0 := by omega
      have hsame : w.trim.sightings = w.sightings := by
        rw [ReplayWindow.trim, hcount]
        rfl
      rw [hsame, hseen] at hgone
      cases hgone
    rw [Table.card_keySet, hsize]
    omega
  · rw [Table.mem_keySet, hgone]
    simp
  · obtain ⟨other, hother⟩ := Table.mem_keySet.mp hk
    obtain ⟨p, hp, hkey, htime⟩ := h.presented k other (get?_of_get?_evict hother)
    have hle : seen.lastSeen ≤ other.lastSeen := lastSeen_le_of_evicted hseen hgone hother
    exact ⟨p, hp, hkey, htime ▸ Int64.le_trans hlast hle⟩

protected theorem trim (h : Tracks w past now) : Tracks w.trim past now where
  past_le := h.past_le
  granted key seen hseen := h.granted key seen (get?_of_get?_evict hseen)
  presented key seen hseen := h.presented key seen (get?_of_get?_evict hseen)
  held a ha hacc := by
    rcases h.held a ha hacc with ⟨seen, hseen, hover, hlast⟩ | hrest
    · cases hget : w.trim.sightings.get? a.key with
      | none => exact Or.inr (Or.inr (h.crowded_of_evicted hseen hlast hget))
      | some other =>
          have hsame := get?_of_get?_evict hget
          rw [hseen] at hsame
          cases hsame
          exact Or.inl ⟨seen, hget, hover, hlast⟩
    · exact Or.inr hrest

/-- A presentation and its answer become part of the past. -/
protected theorem register (h : Tracks w past now) (key : κ) :
    Tracks (w.register now key).2 (past ++ [⟨⟨now, key⟩, (w.register now key).1⟩]) now := by
  by_cases hblocks : w.Blocks now key
  · obtain ⟨seen, hseen, hlt⟩ := blocks_sweep_iff.mpr hblocks
    rw [register_eq_of_blocked hseen hlt]
    exact h.sweep.refresh hseen
  · rw [register_eq_of_free hblocks]
    exact (h.sweep.store (mt blocks_sweep_iff.mp hblocks)).trim

/-! ## What the answers say about the past -/

/-- A refused key was accepted less than a window ago. -/
theorem exists_of_refused {key : κ} (h : Tracks w past now)
    (hrefused : (w.register now key).1 = false) :
    ∃ a ∈ past, a.accepted = true ∧ a.key = key ∧ now < a.over w.config.window := by
  obtain ⟨seen, hseen, hlt⟩ := register_fst_eq_false_iff.mp hrefused
  obtain ⟨a, ha, hacc, hkey, hover⟩ := h.granted key seen hseen
  exact ⟨a, ha, hacc, hkey, hover ▸ hlt⟩

/-- A key that is accepted again within its window was given up for other keys. -/
theorem crowded_of_accepted {key : κ} {a : Answered κ} (h : Tracks w past now)
    (haccepted : (w.register now key).1 = true) (ha : a ∈ past) (hacc : a.accepted = true)
    (hkey : a.key = key) (hwithin : now < a.over w.config.window) :
    Crowded w.config.maxEntries past a := by
  rcases h.held a ha hacc with ⟨seen, hseen, hover, -⟩ | hover | hcrowd
  · have hblocks : w.Blocks now key := ⟨seen, hkey ▸ hseen, Int64.lt_of_lt_of_le hwithin hover⟩
    rw [register_fst_eq_false_iff.mpr hblocks] at haccepted
    cases haccepted
  · exact absurd hwithin (Int64.not_lt.mpr hover)
  · exact hcrowd

end Tracks

end GameGateway.ReplayWindow
