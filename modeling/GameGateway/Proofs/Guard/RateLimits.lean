import GameGateway.Guard.RateLimiter
import GameGateway.Proofs.Replay.Runs

/-!
# Runs of a rate limiter

The answers of a limiter are compared with those of a reference, which keeps no windows at
all: it reads off the history of calls where the window of a key begins and how many calls
this window has admitted.  It forgets nothing, and a call looks at the calls of its own key
only.

The limiter forgets keys from time to time.  `Agrees` says that it does so only when it may: a
key that was called and is forgotten has a window that is over, so the next call opens a window
in any case (`Agrees.sweep`).  Windows that are kept are those of the reference.  Then every
call is answered alike (`Agrees.tryAcquire`), and so is every run (`log_eq_rulings`).

That a window admits no more calls than its budget is shown of the reference (`Ruled`), where
the windows of a key lie a whole span apart.
-/

namespace GameGateway

theorem Millis.toInt_sub_of_le {a b : Millis} (hle : a ≤ b)
    (hrange : b.toInt - a.toInt ≤ Int64.maxValue.toInt) : (b - a).toInt = b.toInt - a.toInt := by
  rw [Int64.le_iff_toInt_le] at hle
  rw [Int64.toInt_maxValue] at hrange
  rw [Int64.toInt_sub]
  exact Int.bmod_eq_of_le (by omega) (by omega)

namespace RateLimiter

open ReplayWindow (Presentation Answered Chronological)

variable {κ : Type} [DecidableEq κ]

/-! ## The reference -/

/-- A call with the answer to it and the beginning of the window in which it is made. -/
structure Ruling (κ : Type) extends Answered κ where
  start : Millis
deriving DecidableEq

/-- Where the last window of a key begins, for a history with the last call first. -/
def start? (key : κ) : List (Ruling κ) → Option Millis
  | [] => none
  | r :: past => if r.key = key then some r.start else start? key past

/-- How many calls the window of a key that begins at `start` has admitted. -/
def admitted (key : κ) (start : Millis) (past : List (Ruling κ)) : Nat :=
  past.countP fun r => r.accepted ∧ r.key = key ∧ r.start = start

/-- What the reference rules about a call.  The first call of a key opens a window, and so does
a call that comes a span after the beginning of the last one; other calls are admitted while
the budget of their window lasts. -/
def rule (span : Int) (budget : Nat) (past : List (Ruling κ)) (p : Presentation κ) : Ruling κ :=
  match start? p.key past with
  | none => ⟨⟨p, true⟩, p.time⟩
  | some start =>
      if start.toInt + span ≤ p.time.toInt then ⟨⟨p, true⟩, p.time⟩
      else ⟨⟨p, admitted p.key start past < budget⟩, start⟩

/-- The rulings about a run, given those before it. -/
def rulings (span : Int) (budget : Nat) (past : List (Ruling κ)) :
    List (Presentation κ) → List (Ruling κ)
  | [] => []
  | p :: rest =>
      rule span budget past p :: rulings span budget (rule span budget past p :: past) rest

section Reference

variable {span : Int} {budget : Nat} {past : List (Ruling κ)} {p : Presentation κ} {key : κ}
  {start : Millis} {r : Ruling κ}

@[simp] theorem rule_toPresentation (span : Int) (budget : Nat) (past : List (Ruling κ))
    (p : Presentation κ) : (rule span budget past p).toPresentation = p := by
  unfold rule
  split
  · rfl
  · split <;> rfl

/-- The last window of the key, if there is one, is over. -/
theorem rule_of_over (budget : Nat)
    (h : ∀ start, start? p.key past = some start → start.toInt + span ≤ p.time.toInt) :
    rule span budget past p = ⟨⟨p, true⟩, p.time⟩ := by
  unfold rule
  split
  · rfl
  · rename_i start hstart
    rw [if_pos (h start hstart)]

theorem rule_of_lasting (budget : Nat) (hstart : start? p.key past = some start)
    (hlasts : p.time.toInt < start.toInt + span) :
    rule span budget past p = ⟨⟨p, admitted p.key start past < budget⟩, start⟩ := by
  unfold rule
  rw [hstart]
  exact if_neg (Int.not_le.mpr hlasts)

/-- A call opens a window or belongs to the last one. -/
theorem rule_cases (span : Int) (budget : Nat) (past : List (Ruling κ)) (p : Presentation κ) :
    (rule span budget past p = ⟨⟨p, true⟩, p.time⟩ ∧
      ∀ start, start? p.key past = some start → start.toInt + span ≤ p.time.toInt) ∨
    ∃ start, start? p.key past = some start ∧ p.time.toInt < start.toInt + span ∧
      rule span budget past p = ⟨⟨p, admitted p.key start past < budget⟩, start⟩ := by
  by_cases hover : ∀ start, start? p.key past = some start → start.toInt + span ≤ p.time.toInt
  · exact .inl ⟨rule_of_over budget hover, hover⟩
  · push Not at hover
    obtain ⟨start, hstart, hlasts⟩ := hover
    exact .inr ⟨start, hstart, hlasts, rule_of_lasting budget hstart hlasts⟩

theorem start?_cons (r : Ruling κ) (past : List (Ruling κ)) (key : κ) :
    start? key (r :: past) = if r.key = key then some r.start else start? key past := rfl

theorem exists_of_start? (h : start? key past = some start) :
    ∃ r ∈ past, r.key = key ∧ r.start = start := by
  induction past with
  | nil => cases h
  | cons r past ih =>
      rw [start?_cons] at h
      split at h
      · rename_i hkey
        cases h
        exact ⟨r, List.mem_cons_self, hkey, rfl⟩
      · obtain ⟨q, hq, hrest⟩ := ih h
        exact ⟨q, List.mem_cons_of_mem r hq, hrest⟩

theorem admitted_cons (r : Ruling κ) (past : List (Ruling κ)) (key : κ) (start : Millis) :
    admitted key start (r :: past) = admitted key start past +
      if r.accepted ∧ r.key = key ∧ r.start = start then 1 else 0 := by
  simp only [admitted, List.countP_cons, decide_eq_true_eq]

/-! ### Windows of one key lie apart -/

/-- What holds of a history of rulings when the clock stands at `now`. -/
structure Ruled (span : Int) (budget : Nat) (past : List (Ruling κ)) (now : Millis) : Prop where
  /-- Calls are made in the windows to which they belong. -/
  within : ∀ r ∈ past, r.start ≤ r.time ∧ r.time.toInt < r.start.toInt + span ∧ r.time ≤ now
  /-- A call belongs to the last window of its key or to one that was over before. -/
  latest : ∀ r ∈ past, ∃ start, start? r.key past = some start ∧
    (r.start = start ∨ r.start.toInt + span ≤ start.toInt)
  apart : ∀ r ∈ past, ∀ q ∈ past, r.key = q.key →
    r.start = q.start ∨ r.start.toInt + span ≤ q.start.toInt ∨
      q.start.toInt + span ≤ r.start.toInt
  bounded : ∀ key start, admitted key start past ≤ budget

theorem Ruled.nil (span : Int) (budget : Nat) (now : Millis) :
    Ruled span budget ([] : List (Ruling κ)) now where
  within := by simp
  latest := by simp
  apart := by simp
  bounded := by simp [admitted]

namespace Ruled

variable {now later : Millis}

theorem wait (h : Ruled span budget past now) (hle : now ≤ later) :
    Ruled span budget past later where
  within r hr :=
    have ⟨hfrom, huntil, htime⟩ := h.within r hr
    ⟨hfrom, huntil, Int64.le_trans htime hle⟩
  latest := h.latest
  apart := h.apart
  bounded := h.bounded

theorem start_cases (h : Ruled span budget past now) (hr : r ∈ past)
    (hstart : start? r.key past = some start) :
    r.start = start ∨ r.start.toInt + span ≤ start.toInt := by
  obtain ⟨last, hlast, hcases⟩ := h.latest r hr
  rw [hstart] at hlast
  cases hlast
  exact hcases

/-- Once the last window of a key is over, so are all. -/
theorem over_of_last (h : Ruled span budget past now) (hspan : 0 < span)
    (hover : ∀ start, start? key past = some start → start.toInt + span ≤ later.toInt)
    (hr : r ∈ past) (hkey : r.key = key) : r.start.toInt + span ≤ later.toInt := by
  obtain ⟨last, hlast, hcases⟩ := h.latest r hr
  have hend := hover last (hkey ▸ hlast)
  rcases hcases with heq | hbefore
  · rwa [heq]
  · omega

/-- A window that is yet to be opened has admitted nothing. -/
theorem admitted_eq_zero (h : Ruled span budget past now) (hspan : 0 < span)
    (hover : ∀ start, start? key past = some start → start.toInt + span ≤ later.toInt) :
    admitted key later past = 0 := by
  rw [admitted, List.countP_eq_zero]
  intro r hr hthis
  obtain ⟨-, hkey, hstart⟩ := of_decide_eq_true hthis
  have hend := h.over_of_last hspan hover hr hkey
  rw [hstart] at hend
  omega

/-- One more call, in the last window of its key or after that is over. -/
protected theorem cons (h : Ruled span budget past now) (hle : now ≤ later)
    (hwithin : r.start ≤ r.time ∧ r.time.toInt < r.start.toInt + span ∧ r.time ≤ later)
    (hlast : ∀ q ∈ past, q.key = r.key → q.start = r.start ∨ q.start.toInt + span ≤ r.start.toInt)
    (hroom : r.accepted = true → admitted r.key r.start past < budget) :
    Ruled span budget (r :: past) later where
  within := List.forall_mem_cons.mpr ⟨hwithin, (h.wait hle).within⟩
  latest := by
    refine List.forall_mem_cons.mpr ⟨⟨r.start, if_pos rfl, .inl rfl⟩, fun q hq => ?_⟩
    rw [start?_cons]
    split
    · rename_i hkey
      exact ⟨r.start, rfl, hlast q hq hkey.symm⟩
    · exact h.latest q hq
  apart := by
    intro a ha b hb hkey
    rcases List.mem_cons.mp ha with rfl | ha' <;> rcases List.mem_cons.mp hb with rfl | hb'
    · exact .inl rfl
    · rcases hlast b hb' hkey.symm with heq | hbefore
      · exact .inl heq.symm
      · exact .inr (.inr hbefore)
    · exact (hlast a ha' hkey).imp_right .inl
    · exact h.apart a ha' b hb' hkey
  bounded key start := by
    rw [admitted_cons]
    split
    · rename_i hthis
      obtain ⟨haccepted, rfl, rfl⟩ := hthis
      exact hroom haccepted
    · exact h.bounded key start

/-- The rulings keep what holds of a history. -/
protected theorem rule (h : Ruled span budget past now) (hspan : 0 < span) (hbudget : 0 < budget)
    (hle : now ≤ p.time) :
    Ruled span budget (rule span budget past p :: past) p.time := by
  rcases rule_cases span budget past p with ⟨hrule, hover⟩ | ⟨start, hstart, hlasts, hrule⟩
  · -- A window is opened.
    rw [hrule]
    refine h.cons hle ⟨Int64.le_refl _, ?_, Int64.le_refl _⟩ ?_ fun _ => ?_
    · exact Int.lt_add_of_pos_right _ hspan
    · exact fun q hq hkey => .inr (h.over_of_last hspan hover hq hkey)
    · exact (h.admitted_eq_zero hspan hover).trans_lt hbudget
  · -- The call belongs to the last window of its key.
    obtain ⟨last, hmem, -, rfl⟩ := exists_of_start? hstart
    obtain ⟨hfrom, -, htime⟩ := h.within last hmem
    rw [hrule]
    refine h.cons hle ⟨?_, hlasts, Int64.le_refl _⟩ ?_ of_decide_eq_true
    · exact Int64.le_trans hfrom (Int64.le_trans htime hle)
    · exact fun q hq hkey => h.start_cases hq (hkey ▸ hstart)

/-- The window of a call admits no more calls than the budget, wherever in the history its
calls are looked for. -/
theorem countP_le (h : Ruled span budget past now) (hr : r ∈ past) :
    (past.countP fun q => q.accepted ∧ q.key = r.key ∧ r.start ≤ q.time ∧
      q.time.toInt < r.start.toInt + span) ≤ budget := by
  refine (List.countP_mono_left fun q hq hthis => ?_).trans (h.bounded r.key r.start)
  obtain ⟨haccepted, hkey, hfrom, huntil⟩ := of_decide_eq_true hthis
  obtain ⟨hbegin, hend, -⟩ := h.within q hq
  refine decide_eq_true ⟨haccepted, hkey, ?_⟩
  -- Windows of the key that lie apart from this one have no call in common with it.
  rw [Int64.le_iff_toInt_le] at hfrom hbegin
  rcases h.apart q hq r hr hkey with heq | hbefore | hafter
  · exact heq
  · omega
  · omega

end Ruled

theorem ruled_run {now : Millis} {calls : List (Presentation κ)} (h : Ruled span budget past now)
    (hspan : 0 < span) (hbudget : 0 < budget) (hclock : Chronological calls)
    (hfrom : ∀ p ∈ calls, now ≤ p.time) :
    ∃ now', Ruled span budget ((rulings span budget past calls).reverse ++ past) now' := by
  induction calls generalizing past now with
  | nil => exact ⟨now, h⟩
  | cons p rest ih =>
      obtain ⟨hhead, htail⟩ := List.pairwise_cons.mp hclock
      have hstep := h.rule hspan hbudget (hfrom p List.mem_cons_self)
      obtain ⟨now', hrun⟩ := ih hstep htail hhead
      refine ⟨now', ?_⟩
      rw [rulings, List.reverse_cons, List.append_assoc]
      exact hrun

/-! ### Calls of other keys -/

theorem start?_filter (key : κ) (past : List (Ruling κ)) :
    start? key (past.filter (·.key = key)) = start? key past := by
  induction past with
  | nil => rfl
  | cons r past ih =>
      by_cases hkey : r.key = key
      · simp [start?_cons, hkey]
      · simp [start?_cons, hkey, ih]

theorem admitted_filter (key : κ) (start : Millis) (past : List (Ruling κ)) :
    admitted key start (past.filter (·.key = key)) = admitted key start past := by
  rw [admitted, List.countP_filter, admitted]
  congr 1
  funext r
  simp only [Bool.decide_and]
  grind

theorem rule_filter (span : Int) (budget : Nat) (past : List (Ruling κ)) (p : Presentation κ) :
    rule span budget (past.filter (·.key = p.key)) p = rule span budget past p := by
  simp only [rule, start?_filter, admitted_filter]

/-- The rulings about one key are those about its calls alone. -/
theorem filter_rulings (span : Int) (budget : Nat) (key : κ) (past : List (Ruling κ))
    (calls : List (Presentation κ)) :
    (rulings span budget past calls).filter (·.key = key) =
      rulings span budget (past.filter (·.key = key)) (calls.filter (·.key = key)) := by
  induction calls generalizing past with
  | nil => rfl
  | cons p rest ih =>
      by_cases hkey : p.key = key
      · subst hkey
        simp [rulings, ih, rule_filter]
      · simp [rulings, hkey, ih]

end Reference

/-! ## The limiter -/

/-- The answers to a run, in order. -/
def log (l : RateLimiter κ) : List (Presentation κ) → List (Answered κ)
  | [] => []
  | p :: rest => ⟨p, (l.tryAcquire p.time p.key).1⟩ :: log (l.tryAcquire p.time p.key).2 rest

variable {l : RateLimiter κ} {past : List (Ruling κ)} {first now now' : Millis} {key : κ}

omit [DecidableEq κ] in
@[simp] theorem window_sweep (l : RateLimiter κ) (now : Millis) :
    (l.sweep now).window = l.window := by
  unfold sweep
  split <;> rfl

omit [DecidableEq κ] in
@[simp] theorem maxEvents_sweep (l : RateLimiter κ) (now : Millis) :
    (l.sweep now).maxEvents = l.maxEvents := by
  unfold sweep
  split <;> rfl

@[simp] theorem window_tryAcquire (l : RateLimiter κ) (now : Millis) (key : κ) :
    (l.tryAcquire now key).2.window = l.window := window_sweep l now

@[simp] theorem maxEvents_tryAcquire (l : RateLimiter κ) (now : Millis) (key : κ) :
    (l.tryAcquire now key).2.maxEvents = l.maxEvents := maxEvents_sweep l now

/-- The windows of a limiter are those of the reference, as far as they are kept. -/
structure Agrees (l : RateLimiter κ) (past : List (Ruling κ)) (first now : Millis) : Prop where
  since : ∀ r ∈ past, first ≤ r.start ∧ r.start ≤ now
  kept : ∀ key w, l.windows.get? key = some w →
    start? key past = some w.startedAt ∧ w.count = admitted key w.startedAt past
  forgotten : ∀ key start, start? key past = some start → l.windows.get? key = none →
    start.toInt + l.window.toInt ≤ now.toInt

namespace Agrees

theorem initial (config : RateLimitConfig) (opened first now : Millis) :
    Agrees (new config opened : RateLimiter κ) [] first now where
  since := by simp
  kept key w h := by cases h
  forgotten key start h := by cases h

theorem wait (h : Agrees l past first now) (hle : now ≤ now') :
    Agrees l past first now' where
  since r hr := ⟨(h.since r hr).1, Int64.le_trans (h.since r hr).2 hle⟩
  kept := h.kept
  forgotten key start hstart hget := by
    have hover := h.forgotten key start hstart hget
    rw [Int64.le_iff_toInt_le] at hle
    omega

/-- In range, the age of a window is exact. -/
theorem toInt_age (h : Agrees l past first now)
    (hrange : now.toInt - first.toInt ≤ Int64.maxValue.toInt) {start : Millis}
    (hstart : start? key past = some start) :
    (now - start).toInt = now.toInt - start.toInt := by
  obtain ⟨r, hr, -, rfl⟩ := exists_of_start? hstart
  obtain ⟨hfirst, hnow⟩ := h.since r hr
  refine Millis.toInt_sub_of_le hnow ?_
  rw [Int64.le_iff_toInt_le] at hfirst
  omega

/-- A key is forgotten only when its window is over. -/
protected theorem sweep (h : Agrees l past first now)
    (hrange : now.toInt - first.toInt ≤ Int64.maxValue.toInt) (hwindow : 0 < l.window.toInt) :
    Agrees (l.sweep now) past first now := by
  unfold RateLimiter.sweep
  split
  · exact h
  refine ⟨h.since, fun key w hget => ?_, fun key start hstart hget => ?_⟩
  · rw [Table.get?_filter, Option.filter_eq_some_iff] at hget
    exact h.kept key w hget.1
  · rw [Table.get?_filter, Option.filter_eq_none_iff] at hget
    cases hw : l.windows.get? key with
    | none => exact h.forgotten key start hstart hw
    | some w =>
        have hidle := hget w hw
        obtain ⟨hsame, -⟩ := h.kept key w hw
        rw [hstart] at hsame
        cases hsame
        -- Twice the window is no less than the window, even where it is cut off.
        rw [decide_eq_true_eq, Int64.not_lt, Int64.le_iff_toInt_le, h.toInt_age hrange hstart,
          Millis.toInt_saturatingMul] at hidle
        have hmax := Millis.toInt_le_max l.window
        have htwo : (2 : Millis).toInt = 2 := rfl
        rw [htwo] at hidle
        show w.startedAt.toInt + l.window.toInt ≤ now.toInt
        omega

/-- The call of a key is put down as the reference rules. -/
theorem insert {r : Ruling κ} {w : CallWindow} (h : Agrees l past first now)
    (hkey : r.key = key) (hsince : first ≤ r.start ∧ r.start ≤ now) (hstart : w.startedAt = r.start)
    (hcount : w.count = admitted key r.start (r :: past)) :
    Agrees { l with windows := l.windows.insert key w } (r :: past) first now := by
  subst hkey
  refine ⟨List.forall_mem_cons.mpr ⟨hsince, h.since⟩, fun k w' hget => ?_,
    fun k start hk hget => ?_⟩
  · rw [Table.get?_insert] at hget
    split at hget
    · rename_i heq
      cases hget
      subst heq
      rw [start?_cons, if_pos rfl, hstart]
      exact ⟨rfl, hcount⟩
    · rename_i hne
      have hother : ¬ r.key = k := fun heq => hne heq.symm
      rw [start?_cons, if_neg hother, admitted_cons, if_neg fun hthis => hother hthis.2.1]
      exact h.kept k w' hget
  · rw [Table.get?_insert] at hget
    split at hget
    · cases hget
    · rename_i hne
      rw [start?_cons, if_neg fun heq => hne heq.symm] at hk
      exact h.forgotten k start hk hget

/-- A call after the last window of its key opens a new one. -/
theorem opens (h : Agrees l past first now) (hruled : Ruled l.window.toInt l.maxEvents past now)
    (hwindow : 0 < l.window.toInt) (hfirst : first ≤ now) (key : κ)
    (hover : ∀ start, start? key past = some start → start.toInt + l.window.toInt ≤ now.toInt) :
    (rule l.window.toInt l.maxEvents past ⟨now, key⟩).accepted = true ∧
      Agrees { l with windows := l.windows.insert key ⟨now, 1⟩ }
        (rule l.window.toInt l.maxEvents past ⟨now, key⟩ :: past) first now := by
  rw [rule_of_over l.maxEvents hover]
  refine ⟨rfl, h.insert rfl ⟨hfirst, Int64.le_refl _⟩ rfl ?_⟩
  rw [admitted_cons, hruled.admitted_eq_zero hwindow hover, if_pos ⟨rfl, rfl, rfl⟩]

/-- A call is answered as the reference rules, whatever has been forgotten before. -/
theorem step {accepted : Bool} {w : CallWindow} (h : Agrees l past first now)
    (hruled : Ruled l.window.toInt l.maxEvents past now)
    (hrange : now.toInt - first.toInt ≤ Int64.maxValue.toInt) (hwindow : 0 < l.window.toInt)
    (hfirst : first ≤ now)
    (hstep : RateLimiter.step l.window l.maxEvents now (l.windows.get? key) = (accepted, w)) :
    (rule l.window.toInt l.maxEvents past ⟨now, key⟩).accepted = accepted ∧
      Agrees { l with windows := l.windows.insert key w }
        (rule l.window.toInt l.maxEvents past ⟨now, key⟩ :: past) first now := by
  cases hget : l.windows.get? key with
  | none =>
      rw [hget] at hstep
      cases hstep
      exact h.opens hruled hwindow hfirst key fun start hstart =>
        h.forgotten key start hstart hget
  | some last =>
      obtain ⟨hstart, hcount⟩ := h.kept key last hget
      have hage : l.window ≤ now - last.startedAt ↔
          last.startedAt.toInt + l.window.toInt ≤ now.toInt := by
        rw [Int64.le_iff_toInt_le, h.toInt_age hrange hstart]
        omega
      rw [hget, RateLimiter.step] at hstep
      split at hstep
      · rename_i hover
        cases hstep
        refine h.opens hruled hwindow hfirst key fun start hsame => ?_
        rw [hstart] at hsame
        cases hsame
        exact hage.mp hover
      rename_i hlasts
      have hsince : first ≤ last.startedAt ∧ last.startedAt ≤ now := by
        obtain ⟨r, hr, -, heq⟩ := exists_of_start? hstart
        exact heq ▸ h.since r hr
      have hrule := rule_of_lasting (p := ⟨now, key⟩) l.maxEvents hstart
        (Int.not_le.mp (mt hage.mpr hlasts))
      rw [← hcount] at hrule
      rw [hrule]
      split at hstep
      · rename_i hroom
        cases hstep
        refine ⟨decide_eq_true hroom, h.insert rfl hsince rfl ?_⟩
        rw [admitted_cons, if_pos ⟨decide_eq_true hroom, rfl, rfl⟩, hcount]
      · rename_i hspent
        cases hstep
        refine ⟨decide_eq_false hspent, h.insert rfl hsince rfl ?_⟩
        rw [admitted_cons, if_neg fun hthis => hspent (of_decide_eq_true hthis.1), hcount]
        rfl

protected theorem tryAcquire (h : Agrees l past first now)
    (hruled : Ruled l.window.toInt l.maxEvents past now)
    (hrange : now.toInt - first.toInt ≤ Int64.maxValue.toInt) (hwindow : 0 < l.window.toInt)
    (hfirst : first ≤ now) (key : κ) :
    (rule l.window.toInt l.maxEvents past ⟨now, key⟩).accepted = (l.tryAcquire now key).1 ∧
      Agrees (l.tryAcquire now key).2 (rule l.window.toInt l.maxEvents past ⟨now, key⟩ :: past)
        first now := by
  have hswept := h.sweep hrange hwindow
  rw [← window_sweep l now] at hruled hwindow ⊢
  rw [← maxEvents_sweep l now] at hruled ⊢
  exact hswept.step hruled hrange hwindow hfirst rfl

end Agrees

/-- A run is answered as the reference rules. -/
theorem log_eq_rulings {span : Int} {budget : Nat} {calls : List (Presentation κ)}
    (h : Agrees l past first now) (hspan : l.window.toInt = span) (hmax : l.maxEvents = budget)
    (hruled : Ruled span budget past now) (hpos : 0 < span) (hbudget : 0 < budget)
    (hclock : Chronological calls) (hfrom : ∀ p ∈ calls, now ≤ p.time)
    (hrange : ∀ p ∈ calls, first ≤ p.time ∧ p.time.toInt - first.toInt ≤ Int64.maxValue.toInt) :
    l.log calls = (rulings span budget past calls).map Ruling.toAnswered := by
  induction calls generalizing l past now with
  | nil => rfl
  | cons p rest ih =>
      subst hspan hmax
      obtain ⟨hhead, htail⟩ := List.pairwise_cons.mp hclock
      obtain ⟨hnow, -⟩ := List.forall_mem_cons.mp hfrom
      obtain ⟨⟨hfirst, hage⟩, hrange⟩ := List.forall_mem_cons.mp hrange
      obtain ⟨hanswer, hagrees⟩ :=
        (h.wait hnow).tryAcquire (hruled.wait hnow) hage hpos hfirst p.key
      have hrest := ih hagrees (congrArg Int64.toInt (window_tryAcquire l p.time p.key))
        (maxEvents_tryAcquire l p.time p.key) (hruled.rule hpos hbudget hnow) htail hhead hrange
      have hcall : ∀ r : Ruling κ, r.toPresentation = p → r.toAnswered = ⟨p, r.accepted⟩ :=
        fun r heq => heq ▸ rfl
      rw [log, rulings, List.map_cons, hrest, ← hanswer, hcall _ (rule_toPresentation ..)]

end RateLimiter

/-! ## The guarantee -/

/-- How long a window lasts. -/
def RateLimitConfig.span (config : RateLimitConfig) : Int := max 1 config.window.toInt

/-- How many calls a window admits. -/
def RateLimitConfig.budget (config : RateLimitConfig) : Nat := max 1 config.maxEvents.toNat

theorem RateLimitConfig.span_pos (config : RateLimitConfig) : 0 < config.span :=
  Int.lt_of_lt_of_le Int.zero_lt_one (Int.le_max_left ..)

theorem RateLimitConfig.budget_pos (config : RateLimitConfig) : 0 < config.budget :=
  Nat.lt_of_lt_of_le Nat.zero_lt_one (Nat.le_max_left ..)

theorem RateLimitConfig.toInt_window (config : RateLimitConfig) :
    (max 1 config.window).toInt = config.span := by
  have hmax : max 1 config.window = if 1 ≤ config.window then config.window else 1 := rfl
  rw [hmax, span]
  split
  · rename_i hle
    rw [Int64.le_iff_toInt_le, Int64.toInt_one] at hle
    omega
  · rename_i hlt
    rw [Int64.not_le, Int64.lt_iff_toInt_lt, Int64.toInt_one] at hlt
    rw [Int64.toInt_one]
    omega

namespace RateLimiter

open ReplayWindow (Presentation Answered Chronological)

variable {κ : Type} [DecidableEq κ] {calls : List (Presentation κ)}

/-- No two instants of the run are farther apart than a span of time can tell. -/
def InRange (calls : List (Presentation κ)) : Prop :=
  ∀ p ∈ calls, ∀ q ∈ calls, q.time.toInt - p.time.toInt ≤ Int64.maxValue.toInt

theorem log_new (config : RateLimitConfig) (opened : Millis) (hclock : Chronological calls)
    (hrange : InRange calls) :
    (new config opened).log calls =
      (rulings config.span config.budget [] calls).map Ruling.toAnswered := by
  cases calls with
  | nil => rfl
  | cons p rest =>
      have hfirst : ∀ q ∈ p :: rest, p.time ≤ q.time :=
        List.forall_mem_cons.mpr ⟨Int64.le_refl _, (List.pairwise_cons.mp hclock).1⟩
      exact log_eq_rulings (Agrees.initial config opened p.time p.time) config.toInt_window rfl
        (Ruled.nil _ _ p.time) config.span_pos config.budget_pos hclock hfirst
        fun q hq => ⟨hfirst q hq, hrange p List.mem_cons_self q hq⟩

/-- **The rate limit is exact.**  In a run whose clock does not go back and stays in range, a
call is admitted exactly if it is the first of its key, or comes a span after the beginning of
the key's last window, or fewer calls than the budget have been admitted in that window.  So
the answers do not show what the limiter forgets and when; the answers to one key are those to
its calls alone; and a window that begins at an instant admits no more calls than the budget
until it is over. -/
theorem rate_limit_exact (config : RateLimitConfig) (opened : Millis)
    (hclock : Chronological calls) (hrange : InRange calls) :
    (new config opened).log calls =
        (rulings config.span config.budget [] calls).map Ruling.toAnswered ∧
      (∀ (key : κ) (reopened : Millis), ((new config opened).log calls).filter (·.key = key) =
        (new config reopened).log (calls.filter (·.key = key))) ∧
      ∀ r ∈ rulings config.span config.budget [] calls,
        (((new config opened).log calls).countP fun a => a.accepted ∧ a.key = r.key ∧
          r.start ≤ a.time ∧ a.time.toInt < r.start.toInt + config.span) ≤ config.budget := by
  have hlog := log_new config opened hclock hrange
  refine ⟨hlog, fun key reopened => ?_, fun r hr => ?_⟩
  · have hsub : calls.filter (·.key = key) ⊆ calls := List.filter_subset_self ..
    have halone := log_new config reopened (List.Pairwise.filter _ hclock)
      fun p hp q hq => hrange p (hsub hp) q (hsub hq)
    rw [hlog, halone, List.filter_map]
    exact congrArg _ (filter_rulings config.span config.budget key [] calls)
  · have hlow : ∀ p ∈ calls, Int64.minValue ≤ p.time := fun p _ =>
      Int64.le_iff_toInt_le.mpr (Millis.min_le_toInt p.time)
    obtain ⟨now, hruled⟩ := ruled_run (Ruled.nil config.span config.budget Int64.minValue)
      config.span_pos config.budget_pos hclock hlow
    have hcount := hruled.countP_le (r := r) (by simpa using hr)
    rw [List.append_nil, List.countP_reverse] at hcount
    rw [hlog, List.countP_map]
    exact hcount

/-- Two keys with two calls to a window: a key that has spent its budget is turned away in the
last instant of its window and admitted in the next, while the other key has a window of its
own.  When they come back after two windows, both have been forgotten. -/
theorem rate_limit_exact_at_boundary :
    Chronological [⟨0, 7⟩, ⟨0, 7⟩, ⟨99, 7⟩, ⟨99, 8⟩, ⟨100, 7⟩, ⟨300, 8⟩, ⟨300, 7⟩] ∧
      InRange [⟨0, 7⟩, ⟨0, 7⟩, ⟨99, 7⟩, ⟨99, 8⟩, ⟨100, 7⟩, ⟨300, 8⟩, ⟨300, 7⟩] ∧
      ((new ⟨100, 2⟩ 0).log [⟨0, 7⟩, ⟨0, 7⟩, ⟨99, 7⟩, ⟨99, 8⟩, ⟨100, 7⟩, ⟨300, 8⟩, ⟨300, 7⟩]).map
        Answered.accepted = [true, true, false, true, true, true, true] := by
  have hclock :
      Chronological [⟨0, 7⟩, ⟨0, 7⟩, ⟨99, 7⟩, ⟨99, 8⟩, ⟨100, 7⟩, ⟨300, 8⟩, ⟨300, 7⟩] := by
    unfold Chronological
    decide
  have hrange : InRange [⟨0, 7⟩, ⟨0, 7⟩, ⟨99, 7⟩, ⟨99, 8⟩, ⟨100, 7⟩, ⟨300, 8⟩, ⟨300, 7⟩] := by
    unfold InRange
    decide
  refine ⟨hclock, hrange, ?_⟩
  rw [(rate_limit_exact ⟨100, 2⟩ 0 hclock hrange).1]
  decide

end RateLimiter

end GameGateway
