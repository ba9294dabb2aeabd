import GameGateway.Proofs.Guard.RateLimits

/-!
# What the sweeps leave behind

A replay window and a rate limiter keep entries that no call will ask for again until a sweep
takes them away.  A call sweeps only if the last sweep lies a window back (`gate`), so after
every call the last sweep is less than a window old (`lt_gate_add`).  When it was made, it left
what was then worth keeping: keys accepted less than a window before (`ReplayWindow.Young`),
and windows begun less than two windows before (`RateLimiter.Young`).  What has come since is
younger still.

So no key of a replay window was accepted two windows ago or earlier, and no window of a rate
limiter was begun three windows ago or earlier.  The number of entries is bounded by what was
accepted or begun since, however many keys have been seen before.
-/

namespace GameGateway

namespace Millis

/-- A saturating sum is no more than the exact one. -/
theorem lt_add_of_lt_saturatingAdd {a b span : Millis} (hspan : 0 ≤ span)
    (h : b < a.saturatingAdd span) : b.toInt < a.toInt + span.toInt := by
  rw [Int64.le_iff_toInt_le, Int64.toInt_zero] at hspan
  rw [Int64.lt_iff_toInt_lt, toInt_saturatingAdd] at h
  have hmin := min_le_toInt a
  omega

/-- When the last sweep was, after a call at `now`. -/
def gate (window last now : Millis) : Millis :=
  if now.saturatingSub last < window then last else now

theorem gate_le {window last now : Millis} (h : last ≤ now) : gate window last now ≤ now := by
  unfold gate
  split
  · exact h
  · exact Int64.le_refl now

/-- After a call the last sweep is less than a window old. -/
theorem lt_gate_add {window : Millis} (hwindow : 0 < window.toInt) (last now : Millis) :
    now.toInt < (gate window last now).toInt + window.toInt := by
  unfold gate
  split
  · rename_i hrecent
    rw [Int64.lt_iff_toInt_lt, toInt_saturatingSub] at hrecent
    -- A difference that is cut off is no less than any window.
    have hmax := toInt_le_max window
    omega
  · omega

end Millis

open ReplayWindow (Presentation Answered Chronological)

variable {κ : Type} [DecidableEq κ] {calls : List (Presentation κ)} {opened now : Millis}

/-! ## Replay windows -/

theorem ReplayConfig.window_pos (config : ReplayConfig) : 0 < config.validated.window.toInt := by
  rw [window_validated]
  split
  · rename_i hle
    rw [Int64.le_iff_toInt_le, Int64.toInt_one] at hle
    omega
  · rw [Int64.toInt_one]
    exact Int.zero_lt_one

namespace ReplayWindow

variable {w : ReplayWindow κ} {past : List (Answered κ)}

omit [DecidableEq κ] in
theorem lastSweep_sweep (w : ReplayWindow κ) (now : Millis) :
    (w.sweep now).lastSweep = Millis.gate w.config.window w.lastSweep now := by
  unfold sweep Millis.gate
  split
  · rfl
  · rfl

theorem lastSweep_register (w : ReplayWindow κ) (now : Millis) (key : κ) :
    (w.register now key).2.lastSweep = Millis.gate w.config.window w.lastSweep now := by
  rw [← lastSweep_sweep]
  by_cases hblocks : w.Blocks now key
  · obtain ⟨seen, hseen, hlasts⟩ := blocks_sweep_iff.mpr hblocks
    rw [register_eq_of_blocked hseen hlasts]
    rfl
  · rw [register_eq_of_free hblocks]
    rfl

theorem lastSweep_after_le (config : ReplayConfig) (hopened : opened ≤ now)
    (hcalls : ∀ p ∈ calls, p.time ≤ now) :
    ((new config opened : ReplayWindow κ).after calls).lastSweep ≤ now := by
  induction calls using List.reverseRecOn generalizing now with
  | nil => exact hopened
  | append_singleton calls p ih =>
      rw [after_append]
      show (((new config opened).after calls).register p.time p.key).2.lastSweep ≤ now
      rw [lastSweep_register, Millis.gate]
      split
      · exact ih hopened fun q hq => hcalls q (List.mem_append_left _ hq)
      · exact hcalls p (by simp)

/-- Every remembered key was accepted less than a window before the last sweep, or since. -/
def Young (w : ReplayWindow κ) (past : List (Answered κ)) : Prop :=
  ∀ key seen, w.sightings.get? key = some seen →
    ∃ a ∈ past, a.accepted = true ∧ a.key = key ∧ seen.expiresAt = a.over w.config.window ∧
      w.lastSweep.toInt < a.time.toInt + w.config.window.toInt

namespace Young

theorem initial (config : ReplayConfig) (opened : Millis) :
    Young (new config opened : ReplayWindow κ) [] := by
  intro key seen hseen
  simp [new] at hseen

/-- A sweep leaves only keys whose window is not over. -/
protected theorem sweep (h : Young w past) (hwindow : 0 ≤ w.config.window) (now : Millis) :
    Young (w.sweep now) past := by
  unfold ReplayWindow.sweep
  split
  · exact h
  · intro key seen hseen
    rw [Table.get?_filter, Option.filter_eq_some_iff] at hseen
    obtain ⟨a, ha, haccepted, hkey, hexpires, -⟩ := h key seen hseen.1
    refine ⟨a, ha, haccepted, hkey, hexpires, ?_⟩
    have hlasts : now < a.over w.config.window := hexpires ▸ of_decide_eq_true hseen.2
    exact Millis.lt_add_of_lt_saturatingAdd hwindow hlasts

/-- One more presentation does not make the accepted ones older. -/
theorem append (h : Young w past) (a : Answered κ) : Young w (past ++ [a]) := by
  intro key seen hseen
  obtain ⟨b, hb, hrest⟩ := h key seen hseen
  exact ⟨b, List.mem_append_left _ hb, hrest⟩

protected theorem refresh {key : κ} {seen : Sighting} (h : Young w past)
    (hseen : w.sightings.get? key = some seen) (now : Millis) :
    Young (w.refresh now key seen) past := by
  intro k other hother
  rw [refresh, Table.get?_insert] at hother
  split at hother
  · rename_i hkey
    cases hother
    exact hkey ▸ h key seen hseen
  · exact h k other hother

protected theorem store (h : Young w past) (hwindow : 0 < w.config.window.toInt)
    (hswept : w.lastSweep ≤ now) (key : κ) :
    Young (w.store now key) (past ++ [⟨⟨now, key⟩, true⟩]) := by
  intro k other hother
  rw [store, Table.get?_insert] at hother
  split at hother
  · rename_i hkey
    cases hother
    refine ⟨⟨⟨now, key⟩, true⟩, by simp, rfl, hkey.symm, rfl, ?_⟩
    rw [Int64.le_iff_toInt_le] at hswept
    show w.lastSweep.toInt < now.toInt + w.config.window.toInt
    omega
  · exact h.append _ k other hother

protected theorem trim (h : Young w past) : Young w.trim past := by
  intro key seen hseen
  exact h key seen (get?_of_get?_evict hseen)

protected theorem register (h : Young w past) (hwindow : 0 < w.config.window.toInt)
    (hswept : w.lastSweep ≤ now) (key : κ) :
    Young (w.register now key).2 (past ++ [⟨⟨now, key⟩, (w.register now key).1⟩]) := by
  have hnonneg : 0 ≤ w.config.window := by
    rw [Int64.le_iff_toInt_le, Int64.toInt_zero]
    omega
  have hleft : Young (w.sweep now) past := h.sweep hnonneg now
  by_cases hblocks : w.Blocks now key
  · obtain ⟨seen, hseen, hlasts⟩ := blocks_sweep_iff.mpr hblocks
    rw [register_eq_of_blocked hseen hlasts]
    exact (hleft.refresh hseen now).append _
  · rw [register_eq_of_free hblocks]
    refine (hleft.store ?_ ?_ key).trim
    · rw [config_sweep]
      exact hwindow
    · rw [lastSweep_sweep]
      exact Millis.gate_le hswept

theorem after (config : ReplayConfig) (hclock : Chronological calls)
    (hopened : ∀ p ∈ calls, opened ≤ p.time) :
    Young ((new config opened : ReplayWindow κ).after calls) ((new config opened).log calls) := by
  induction calls using List.reverseRecOn with
  | nil => exact initial config opened
  | append_singleton calls p ih =>
      obtain ⟨hbefore, -, hlast⟩ := List.pairwise_append.mp hclock
      rw [after_append, log_append]
      have hyoung := ih hbefore fun q hq => hopened q (List.mem_append_left _ hq)
      refine hyoung.register ?_ ?_ p.key
      · rw [config_after]
        exact config.window_pos
      · exact lastSweep_after_le config (hopened p (by simp)) fun q hq => hlast q hq p (by simp)

end Young

/-- After a presentation the last sweep is less than a window old. -/
theorem lt_lastSweep_after_add (config : ReplayConfig) (opened : Millis)
    (calls : List (Presentation κ)) (p : Presentation κ) :
    p.time.toInt < ((new config opened).after (calls ++ [p])).lastSweep.toInt +
      config.validated.window.toInt := by
  rw [after_append]
  show p.time.toInt < (((new config opened).after calls).register p.time p.key).2.lastSweep.toInt +
    config.validated.window.toInt
  rw [lastSweep_register, config_after_new]
  exact Millis.lt_gate_add config.window_pos _ p.time

/-- The keys that were accepted after the given instant. -/
def acceptedSince (since : Int) (log : List (Answered κ)) : Finset κ :=
  ((log.filter fun a => a.accepted ∧ since < a.time.toInt).map fun a => a.key).toFinset

theorem mem_acceptedSince {since : Int} {log : List (Answered κ)} {a : Answered κ} (ha : a ∈ log)
    (haccepted : a.accepted = true) (htime : since < a.time.toInt) :
    a.key ∈ acceptedSince since log := by
  rw [acceptedSince, List.mem_toFinset]
  exact List.mem_map_of_mem (List.mem_filter.mpr ⟨ha, decide_eq_true ⟨haccepted, htime⟩⟩)

end ReplayWindow

/-! ## Rate limiters -/

namespace RateLimiter

variable {l : RateLimiter κ} {past : List (Ruling κ)} {span : Int} {budget : Nat}
  {first later : Millis}

/-- The limiter after a run. -/
def after (l : RateLimiter κ) : List (Presentation κ) → RateLimiter κ
  | [] => l
  | p :: rest => after (l.tryAcquire p.time p.key).2 rest

theorem after_concat (l : RateLimiter κ) (calls : List (Presentation κ)) (p : Presentation κ) :
    l.after (calls ++ [p]) = ((l.after calls).tryAcquire p.time p.key).2 := by
  induction calls generalizing l with
  | nil => rfl
  | cons q rest ih => exact ih _

@[simp] theorem window_after (l : RateLimiter κ) (calls : List (Presentation κ)) :
    (l.after calls).window = l.window := by
  induction calls generalizing l with
  | nil => rfl
  | cons p rest ih => rw [after, ih, window_tryAcquire]

theorem rulings_concat (span : Int) (budget : Nat) (past : List (Ruling κ))
    (calls : List (Presentation κ)) (p : Presentation κ) :
    rulings span budget past (calls ++ [p]) = rulings span budget past calls ++
      [rule span budget ((rulings span budget past calls).reverse ++ past) p] := by
  induction calls generalizing past with
  | nil => rfl
  | cons q rest ih => simp [rulings, ih]

omit [DecidableEq κ] in
theorem lastSweep_sweep (l : RateLimiter κ) (now : Millis) :
    (l.sweep now).lastSweep = Millis.gate l.window l.lastSweep now := by
  unfold sweep Millis.gate
  split
  · rfl
  · rfl

theorem lastSweep_tryAcquire (l : RateLimiter κ) (now : Millis) (key : κ) :
    (l.tryAcquire now key).2.lastSweep = Millis.gate l.window l.lastSweep now :=
  lastSweep_sweep l now

/-- A call begins a window at its own instant, or leaves the beginning as it is. -/
theorem startedAt_step (window : Millis) (maxEvents : Nat) (now : Millis)
    (last : Option CallWindow) :
    (step window maxEvents now last).2.startedAt = now ∨
      ∃ w, last = some w ∧ (step window maxEvents now last).2.startedAt = w.startedAt := by
  cases last with
  | none => exact .inl rfl
  | some w =>
      unfold step
      dsimp only
      split
      · exact .inl rfl
      · split
        · exact .inr ⟨w, rfl, rfl⟩
        · exact .inr ⟨w, rfl, rfl⟩

/-- Every window that is kept was begun less than two windows before the last sweep, or
since. -/
def Young (l : RateLimiter κ) : Prop :=
  ∀ key w, l.windows.get? key = some w →
    l.lastSweep.toInt < w.startedAt.toInt + 2 * l.window.toInt

/-- A sweep leaves only windows that were begun less than two windows ago. -/
theorem Young.sweep (h : Young l) (hagrees : Agrees l past first now)
    (hrange : now.toInt - first.toInt ≤ Int64.maxValue.toInt) (hwindow : 0 < l.window.toInt) :
    Young (l.sweep now) := by
  unfold RateLimiter.sweep
  split
  · exact h
  · intro key w hget
    rw [Table.get?_filter, Option.filter_eq_some_iff] at hget
    obtain ⟨hkept, hrecent⟩ := hget
    have hage := hagrees.toInt_age hrange (hagrees.kept key w hkept).1
    have hshort : now - w.startedAt < l.window.saturatingMul 2 := of_decide_eq_true hrecent
    have htwo : (2 : Millis).toInt = 2 := rfl
    rw [Int64.lt_iff_toInt_lt, hage, Millis.toInt_saturatingMul, htwo] at hshort
    have hmin : Int64.minValue.toInt ≤ 0 := Millis.min_le_toInt 0
    show now.toInt < w.startedAt.toInt + 2 * l.window.toInt
    omega

theorem Young.tryAcquire (h : Young (l.sweep now)) (hwindow : 0 < l.window.toInt)
    (hswept : l.lastSweep ≤ now) (key : κ) : Young (l.tryAcquire now key).2 := by
  have hgate : (l.sweep now).lastSweep ≤ now := by
    rw [lastSweep_sweep]
    exact Millis.gate_le hswept
  intro k w hget
  show (l.sweep now).lastSweep.toInt < w.startedAt.toInt + 2 * (l.sweep now).window.toInt
  have hinsert : (l.tryAcquire now key).2.windows = (l.sweep now).windows.insert key
      (step (l.sweep now).window (l.sweep now).maxEvents now ((l.sweep now).windows.get? key)).2 :=
    rfl
  rw [hinsert, Table.get?_insert] at hget
  split at hget
  · cases hget
    rcases startedAt_step (l.sweep now).window (l.sweep now).maxEvents now
      ((l.sweep now).windows.get? key) with hnew | ⟨last, hlast, hsame⟩
    · rw [hnew, window_sweep]
      rw [Int64.le_iff_toInt_le] at hgate
      omega
    · rw [hsame]
      exact h key last hlast
  · exact h k w hget

/-- Where a key's last window begins there is a call that has begun it. -/
def Opened (past : List (Ruling κ)) : Prop :=
  ∀ key start, start? key past = some start →
    ∃ r ∈ past, r.key = key ∧ r.start = start ∧ r.time = start

theorem Opened.rule (h : Opened past) (span : Int) (budget : Nat) (p : Presentation κ) :
    Opened (rule span budget past p :: past) := by
  have hpast : ∀ key start, start? key past = some start →
      ∃ r ∈ RateLimiter.rule span budget past p :: past,
        r.key = key ∧ r.start = start ∧ r.time = start := by
    intro key start hstart
    obtain ⟨r, hr, hrest⟩ := h key start hstart
    exact ⟨r, List.mem_cons_of_mem _ hr, hrest⟩
  intro key start hstart
  rw [start?_cons, rule_toPresentation] at hstart
  split at hstart
  · rename_i hkey
    rcases rule_cases span budget past p with ⟨hrule, -⟩ | ⟨last, hlast, -, hrule⟩
    · rw [hrule] at hstart ⊢
      cases hstart
      exact ⟨_, List.mem_cons_self, hkey, rfl, rfl⟩
    · rw [hrule] at hstart
      cases hstart
      exact hpast key _ (hkey ▸ hlast)
  · exact hpast key start hstart

/-- The windows of a limiter are those of the reference, and none of them is old. -/
structure Kept (l : RateLimiter κ) (span : Int) (budget : Nat) (past : List (Ruling κ))
    (first now : Millis) : Prop where
  window_eq : l.window.toInt = span
  maxEvents_eq : l.maxEvents = budget
  agrees : Agrees l past first now
  ruled : Ruled span budget past now
  opened : Opened past
  young : Young l
  swept : l.lastSweep ≤ now

namespace Kept

theorem initial (config : RateLimitConfig) (first : Millis) (hopened : opened ≤ now) :
    Kept (new config opened : RateLimiter κ) config.span config.budget [] first now where
  window_eq := config.toInt_window
  maxEvents_eq := rfl
  agrees := Agrees.initial config opened first now
  ruled := Ruled.nil config.span config.budget now
  opened key start hstart := by cases hstart
  young key w hget := by cases hget
  swept := hopened

theorem wait (h : Kept l span budget past first now) (hle : now ≤ later) :
    Kept l span budget past first later where
  window_eq := h.window_eq
  maxEvents_eq := h.maxEvents_eq
  agrees := h.agrees.wait hle
  ruled := h.ruled.wait hle
  opened := h.opened
  young := h.young
  swept := Int64.le_trans h.swept hle

protected theorem tryAcquire {p : Presentation κ} (h : Kept l span budget past first p.time)
    (hspan : 0 < span) (hbudget : 0 < budget) (hfirst : first ≤ p.time)
    (hrange : p.time.toInt - first.toInt ≤ Int64.maxValue.toInt) :
    Kept (l.tryAcquire p.time p.key).2 span budget (rule span budget past p :: past) first
      p.time := by
  obtain ⟨rfl, rfl, hagrees, hruled, hopened, hyoung, hswept⟩ := h
  refine ⟨?_, ?_, ?_, ?_, ?_, ?_, ?_⟩
  · rw [window_tryAcquire]
  · rw [maxEvents_tryAcquire]
  · exact (hagrees.tryAcquire hruled hrange hspan hfirst p.key).2
  · exact hruled.rule hspan hbudget (Int64.le_refl _)
  · exact hopened.rule l.window.toInt l.maxEvents p
  · exact (hyoung.sweep hagrees hrange hspan).tryAcquire hspan hswept p.key
  · rw [lastSweep_tryAcquire]
    exact Millis.gate_le hswept

/-- A run keeps what holds of a new limiter. -/
theorem after (config : RateLimitConfig) (hclock : Chronological calls) (hopened : opened ≤ now)
    (hfrom : ∀ p ∈ calls, opened ≤ p.time) (huntil : ∀ p ∈ calls, p.time ≤ now)
    (hrange : ∀ p ∈ calls, first ≤ p.time ∧ p.time.toInt - first.toInt ≤ Int64.maxValue.toInt) :
    Kept ((new config opened).after calls) config.span config.budget
      (rulings config.span config.budget [] calls).reverse first now := by
  induction calls using List.reverseRecOn generalizing now with
  | nil => exact initial config first hopened
  | append_singleton calls p ih =>
      obtain ⟨hbefore, -, hlast⟩ := List.pairwise_append.mp hclock
      have hp : p ∈ calls ++ [p] := by simp
      have hmem : ∀ q ∈ calls, q ∈ calls ++ [p] := fun q hq => List.mem_append_left _ hq
      have hkept := ih hbefore (hfrom p hp) (fun q hq => hfrom q (hmem q hq))
        (fun q hq => hlast q hq p (by simp)) (fun q hq => hrange q (hmem q hq))
      obtain ⟨hfirst, hage⟩ := hrange p hp
      rw [after_concat, rulings_concat, List.append_nil, List.reverse_concat]
      exact (hkept.tryAcquire config.span_pos config.budget_pos hfirst hage).wait (huntil p hp)

end Kept

/-- After a call the last sweep is less than a window old. -/
theorem lt_lastSweep_after_add (config : RateLimitConfig) (opened : Millis)
    (calls : List (Presentation κ)) (p : Presentation κ) :
    p.time.toInt < ((new config opened).after (calls ++ [p])).lastSweep.toInt + config.span := by
  have hspan : ((new config opened : RateLimiter κ).after calls).window.toInt = config.span := by
    rw [window_after]
    exact config.toInt_window
  rw [after_concat, lastSweep_tryAcquire, ← hspan]
  apply Millis.lt_gate_add
  rw [hspan]
  exact config.span_pos

/-- The keys under which a window was begun after the given instant. -/
def openedSince (since : Int) (log : List (Ruling κ)) : Finset κ :=
  ((log.filter fun r => r.time = r.start ∧ since < r.start.toInt).map fun r => r.key).toFinset

theorem mem_openedSince {since : Int} {log : List (Ruling κ)} {r : Ruling κ} (hr : r ∈ log)
    (hopens : r.time = r.start) (htime : since < r.start.toInt) :
    r.key ∈ openedSince since log := by
  rw [openedSince, List.mem_toFinset]
  exact List.mem_map_of_mem (List.mem_filter.mpr ⟨hr, decide_eq_true ⟨hopens, htime⟩⟩)

end RateLimiter

/-! ## Nothing old is kept -/

omit [DecidableEq κ] in
/-- A run begins with a call that is no later than any other. -/
theorem exists_first {p : Presentation κ} (hclock : Chronological calls) (hp : p ∈ calls) :
    ∃ first ∈ calls, ∀ q ∈ calls, first.time ≤ q.time := by
  cases calls with
  | nil => cases hp
  | cons first rest =>
      refine ⟨first, List.mem_cons_self, ?_⟩
      exact List.forall_mem_cons.mpr ⟨Int64.le_refl _, (List.pairwise_cons.mp hclock).1⟩

section Bounds

variable {p : Presentation κ} (hclock : Chronological (calls ++ [p]))
  (hopened : ∀ q ∈ calls ++ [p], opened ≤ q.time)

include hclock hopened

/-- Every key that is remembered after a presentation was accepted less than two windows
before. -/
theorem ReplayWindow.exists_accepted_since (config : ReplayConfig) {key : κ} {seen : Sighting}
    (hseen : ((new config opened).after (calls ++ [p])).sightings.get? key = some seen) :
    ∃ a ∈ (new config opened).log (calls ++ [p]), a.accepted = true ∧ a.key = key ∧
      seen.expiresAt = a.over config.validated.window ∧
      p.time.toInt - 2 * config.validated.window.toInt < a.time.toInt := by
  obtain ⟨a, ha, haccepted, hkey, hexpires, hage⟩ :=
    Young.after config hclock hopened key seen hseen
  rw [config_after_new] at hexpires hage
  refine ⟨a, ha, haccepted, hkey, hexpires, ?_⟩
  have hgate := lt_lastSweep_after_add config opened calls p
  omega

theorem ReplayWindow.size_le_card_acceptedSince (config : ReplayConfig) :
    ((new config opened : ReplayWindow κ).after (calls ++ [p])).size ≤
      (acceptedSince (p.time.toInt - 2 * config.validated.window.toInt)
        ((new config opened).log (calls ++ [p]))).card := by
  rw [size, ← Table.card_keySet]
  apply Finset.card_le_card
  intro key hkey
  obtain ⟨seen, hseen⟩ := Table.mem_keySet.mp hkey
  obtain ⟨a, ha, haccepted, rfl, -, htime⟩ :=
    exists_accepted_since hclock hopened config hseen
  exact mem_acceptedSince ha haccepted htime

/-- Every window that is kept after a call was begun less than three windows before. -/
theorem RateLimiter.exists_opened_since (config : RateLimitConfig)
    (hrange : RateLimiter.InRange (calls ++ [p])) {key : κ} {window : CallWindow}
    (hget : ((new config opened).after (calls ++ [p])).windows.get? key = some window) :
    ∃ r ∈ rulings config.span config.budget [] (calls ++ [p]), r.key = key ∧
      r.start = window.startedAt ∧ r.time = window.startedAt ∧
      p.time.toInt - 3 * config.span < window.startedAt.toInt := by
  have hp : p ∈ calls ++ [p] := by simp
  obtain ⟨first, hfirst, hle⟩ := exists_first hclock hp
  have hlast : ∀ q ∈ calls ++ [p], q.time ≤ p.time := by
    obtain ⟨-, -, hbefore⟩ := List.pairwise_append.mp hclock
    intro q hq
    rcases List.mem_append.mp hq with hq | hq
    · exact hbefore q hq p (List.mem_singleton_self p)
    · rw [List.mem_singleton.mp hq]
      exact Int64.le_refl p.time
  have hkept : Kept ((new config opened).after (calls ++ [p])) _ _ _ first.time p.time :=
    Kept.after config hclock (hopened p hp) hopened hlast fun q hq =>
      ⟨hle q hq, hrange first hfirst q hq⟩
  obtain ⟨r, hr, hkey, hstart, htime⟩ :=
    hkept.opened key window.startedAt (hkept.agrees.kept key window hget).1
  refine ⟨r, List.mem_reverse.mp hr, hkey, hstart, htime, ?_⟩
  have hage := hkept.young key window hget
  rw [hkept.window_eq] at hage
  have hgate := lt_lastSweep_after_add config opened calls p
  omega

theorem RateLimiter.trackedKeys_le_card_openedSince (config : RateLimitConfig)
    (hrange : RateLimiter.InRange (calls ++ [p])) :
    ((new config opened : RateLimiter κ).after (calls ++ [p])).trackedKeys ≤
      (openedSince (p.time.toInt - 3 * config.span)
        (rulings config.span config.budget [] (calls ++ [p]))).card := by
  rw [trackedKeys, ← Table.card_keySet]
  apply Finset.card_le_card
  intro key hkey
  obtain ⟨window, hget⟩ := Table.mem_keySet.mp hkey
  obtain ⟨r, hr, rfl, hstart, htime, hage⟩ :=
    exists_opened_since hclock hopened config hrange hget
  rw [← hstart] at htime hage
  exact mem_openedSince hr htime hage

end Bounds

/-- **The sweeps bound what is kept.**  In a run whose clock does not go back, and is not read
before the opening: every key that a replay window remembers after a presentation was accepted
less than two windows before, so it remembers no more keys than were accepted in that time.
If no two instants of the run are farther apart than a span can tell, every window that a rate
limiter keeps after a call was begun less than three windows before, so it keeps no more than
there are keys under which a window was begun in that time. -/
theorem sweeps_bound_entries (replay : ReplayConfig) (limits : RateLimitConfig)
    (opened : Millis) (calls : List (Presentation κ)) (p : Presentation κ)
    (hclock : Chronological (calls ++ [p])) (hopened : ∀ q ∈ calls ++ [p], opened ≤ q.time) :
    (∀ key seen,
      ((ReplayWindow.new replay opened).after (calls ++ [p])).sightings.get? key = some seen →
      ∃ a ∈ (ReplayWindow.new replay opened).log (calls ++ [p]), a.accepted = true ∧
        a.key = key ∧ seen.expiresAt = a.over replay.validated.window ∧
        p.time.toInt - 2 * replay.validated.window.toInt < a.time.toInt) ∧
    ((ReplayWindow.new replay opened : ReplayWindow κ).after (calls ++ [p])).size ≤
      (ReplayWindow.acceptedSince (p.time.toInt - 2 * replay.validated.window.toInt)
        ((ReplayWindow.new replay opened).log (calls ++ [p]))).card ∧
    (RateLimiter.InRange (calls ++ [p]) →
      (∀ key window,
        ((RateLimiter.new limits opened).after (calls ++ [p])).windows.get? key = some window →
        ∃ r ∈ RateLimiter.rulings limits.span limits.budget [] (calls ++ [p]), r.key = key ∧
          r.start = window.startedAt ∧ r.time = window.startedAt ∧
          p.time.toInt - 3 * limits.span < window.startedAt.toInt) ∧
      ((RateLimiter.new limits opened : RateLimiter κ).after (calls ++ [p])).trackedKeys ≤
        (RateLimiter.openedSince (p.time.toInt - 3 * limits.span)
          (RateLimiter.rulings limits.span limits.budget [] (calls ++ [p]))).card) := by
  refine ⟨?_, ReplayWindow.size_le_card_acceptedSince hclock hopened replay, ?_⟩
  · intro key seen hseen
    exact ReplayWindow.exists_accepted_since hclock hopened replay hseen
  · intro hrange
    refine ⟨?_, RateLimiter.trackedKeys_le_card_openedSince hclock hopened limits hrange⟩
    intro key window hget
    exact RateLimiter.exists_opened_since hclock hopened limits hrange hget

/-- With windows of 100, the only sweep at 150 and the last call at 249: the replay window still
remembers a key that was accepted at 99, and the limiter keeps a window that was begun at 0. -/
theorem sweeps_bound_entries_late :
    Chronological ([⟨0, 1⟩, ⟨99, 2⟩, ⟨150, 3⟩] ++ [⟨249, 4⟩]) ∧
      (∀ q ∈ ([⟨0, 1⟩, ⟨99, 2⟩, ⟨150, 3⟩] ++ [⟨249, 4⟩] : List (Presentation Nat)),
        (0 : Millis) ≤ q.time) ∧
      RateLimiter.InRange ([⟨0, 1⟩, ⟨99, 2⟩, ⟨150, 3⟩] ++ [⟨249, 4⟩]) ∧
      ((ReplayWindow.new ⟨100, 10⟩ 0).after
        ([⟨0, 1⟩, ⟨99, 2⟩, ⟨150, 3⟩] ++ [⟨249, 4⟩])).size ≤ 3 ∧
      ((RateLimiter.new ⟨100, 5⟩ 0).after
        ([⟨0, 1⟩, ⟨99, 2⟩, ⟨150, 3⟩] ++ [⟨249, 4⟩])).trackedKeys ≤ 4 := by
  have hclock : Chronological ([⟨0, 1⟩, ⟨99, 2⟩, ⟨150, 3⟩] ++ [⟨249, 4⟩]) := by
    unfold Chronological
    decide
  have hopened : ∀ q ∈ ([⟨0, 1⟩, ⟨99, 2⟩, ⟨150, 3⟩] ++ [⟨249, 4⟩] : List (Presentation Nat)),
      (0 : Millis) ≤ q.time := by decide
  have hrange : RateLimiter.InRange ([⟨0, 1⟩, ⟨99, 2⟩, ⟨150, 3⟩] ++ [⟨249, 4⟩]) := by
    unfold RateLimiter.InRange
    decide
  obtain ⟨-, hsize, hlimits⟩ := sweeps_bound_entries ⟨100, 10⟩ ⟨100, 5⟩ 0
    [⟨0, 1⟩, ⟨99, 2⟩, ⟨150, 3⟩] ⟨249, 4⟩ hclock hopened
  obtain ⟨-, htracked⟩ := hlimits hrange
  exact ⟨hclock, hopened, hrange, hsize.trans (by decide), htracked.trans (by decide)⟩

end GameGateway
