import GameGateway.Proofs.Replay.Tracking

/-!
# Runs of a replay window

A run presents keys one after the other while the clock does not go back.  This file
compares its answers with those of the reference set, which remembers every accepted
presentation and refuses a key exactly while a window of an accepted one lasts: it
never sweeps and never gives a key up.

`run_tracks` carries the invariant of `Tracking.lean` through a run.  From it come the
three laws of the answers:

* `refused_within`: a refusal is always one that the reference set would give;
* `crowded_of_accepted_again`: if a key is accepted again within its window, then as
  many other keys were presented meanwhile as the window may hold;
* `log_eq_reference`: where no stretch of time as long as the window sees more keys
  than the window may hold, the answers are those of the reference set.

The instant at which a window is opened decides when it sweeps, and nothing else.  By
the last law it makes no difference to the answers as long as keys do not crowd each
other out.  Once they do, it can: a sweep makes room by forgetting keys whose window
is over, and without it a key still in its window may be given up in their place.
-/

namespace GameGateway

theorem ReplayConfig.window_validated (config : ReplayConfig) :
    config.validated.window = if 1 ≤ config.window then config.window else 1 := rfl

theorem ReplayConfig.window_nonneg (config : ReplayConfig) : 0 ≤ config.validated.window := by
  have hone : (0 : Millis) ≤ 1 := by decide
  rw [window_validated]
  split
  · rename_i hle
    exact Int64.le_trans hone hle
  · exact hone

theorem ReplayConfig.window_validated_of_pos {window : Millis} (h : 0 < window)
    (maxEntries : Nat) : (ReplayConfig.mk window maxEntries).validated.window = window := by
  have hone : (1 : Millis) ≤ window := by
    rw [Int64.lt_iff_toInt_lt, Int64.toInt_zero] at h
    rw [Int64.le_iff_toInt_le, Int64.toInt_one]
    exact h
  rw [window_validated, if_pos hone]

theorem ReplayConfig.maxEntries_le_validated (config : ReplayConfig) :
    config.maxEntries ≤ config.validated.maxEntries := Nat.le_max_right 1 config.maxEntries

namespace ReplayWindow

variable {κ : Type} [DecidableEq κ]

/-- The answers to a run, in order. -/
def log (w : ReplayWindow κ) : List (Presentation κ) → List (Answered κ)
  | [] => []
  | p :: rest => ⟨p, (w.register p.time p.key).1⟩ :: log (w.register p.time p.key).2 rest

/-- The window after a run. -/
def after (w : ReplayWindow κ) : List (Presentation κ) → ReplayWindow κ
  | [] => w
  | p :: rest => after (w.register p.time p.key).2 rest

/-- The clock of a run does not go back. -/
def Chronological (calls : List (Presentation κ)) : Prop :=
  calls.Pairwise fun a b => a.time ≤ b.time

@[simp] theorem map_toPresentation_log (w : ReplayWindow κ) (calls : List (Presentation κ)) :
    (w.log calls).map Answered.toPresentation = calls := by
  induction calls generalizing w with
  | nil => rfl
  | cons p rest ih => simp [log, ih]

@[simp] theorem config_after (w : ReplayWindow κ) (calls : List (Presentation κ)) :
    (w.after calls).config = w.config := by
  induction calls generalizing w with
  | nil => rfl
  | cons p rest ih => simp [after, ih]

theorem config_after_new (config : ReplayConfig) (opened : Millis)
    (calls : List (Presentation κ)) :
    ((new config opened : ReplayWindow κ).after calls).config = config.validated :=
  config_after _ calls

theorem log_append (w : ReplayWindow κ) (first second : List (Presentation κ)) :
    w.log (first ++ second) = w.log first ++ (w.after first).log second := by
  induction first generalizing w with
  | nil => rfl
  | cons p rest ih => simp [log, after, ih]

theorem after_append (w : ReplayWindow κ) (first second : List (Presentation κ)) :
    w.after (first ++ second) = (w.after first).after second := by
  induction first generalizing w with
  | nil => rfl
  | cons p rest ih => exact ih _

@[simp] theorem length_log (w : ReplayWindow κ) (calls : List (Presentation κ)) :
    (w.log calls).length = calls.length := by
  rw [← List.length_map Answered.toPresentation, map_toPresentation_log]

/-- A place in the log of a run: what came before it, and the answer there. -/
theorem log_split {w : ReplayWindow κ} {calls : List (Presentation κ)}
    {past rest : List (Answered κ)} {c : Answered κ} (h : w.log calls = past ++ c :: rest) :
    ∃ before later, calls = before ++ c.toPresentation :: later ∧ past = w.log before ∧
      c.accepted = ((w.after before).register c.time c.key).1 := by
  have hcalls := congrArg (List.map Answered.toPresentation) h
  rw [map_toPresentation_log, List.map_append, List.map_cons] at hcalls
  refine ⟨_, _, hcalls, ?_⟩
  rw [hcalls, log_append, log] at h
  obtain ⟨hpast, hcons⟩ := List.append_inj h (by simp)
  injection hcons with hhead
  exact ⟨hpast.symm, by rw [← hhead]⟩

/-- A run keeps the invariant. -/
theorem run_tracks {w : ReplayWindow κ} {calls : List (Presentation κ)}
    {past : List (Answered κ)} {now end' : Millis} (h : Tracks w past now)
    (hclock : Chronological calls) (hfrom : ∀ p ∈ calls, now ≤ p.time)
    (huntil : ∀ p ∈ calls, p.time ≤ end') (hle : now ≤ end') :
    Tracks (w.after calls) (past ++ w.log calls) end' := by
  induction calls generalizing w past now with
  | nil =>
      rw [log, List.append_nil]
      exact h.later hle
  | cons p rest ih =>
      obtain ⟨hhead, htail⟩ := List.pairwise_cons.mp hclock
      have hstep := (h.later (hfrom p (List.mem_cons_self ..))).register p.key
      have hrun := ih hstep htail hhead (fun q hq => huntil q (List.mem_cons_of_mem _ hq))
        (huntil p (List.mem_cons_self ..))
      rw [List.append_assoc] at hrun
      exact hrun

/-- After a run of a new window, the window knows what was presented to it. -/
theorem run_tracks_new (config : ReplayConfig) (opened : Millis) {calls : List (Presentation κ)}
    {end' : Millis} (hclock : Chronological calls) (huntil : ∀ p ∈ calls, p.time ≤ end') :
    Tracks ((new config opened : ReplayWindow κ).after calls)
      ((new config opened : ReplayWindow κ).log calls) end' := by
  have hlow : ∀ t : Millis, Int64.minValue ≤ t := fun t =>
    Int64.le_iff_toInt_le.mpr (Millis.min_le_toInt t)
  exact run_tracks (Tracks.initial config opened Int64.minValue) hclock (fun p _ => hlow p.time)
    huntil (hlow end')

/-- The window at a place of a run belongs to the answers before it. -/
theorem tracks_before (config : ReplayConfig) (opened : Millis)
    {before later : List (Presentation κ)} {p : Presentation κ}
    (hclock : Chronological (before ++ p :: later)) :
    Tracks ((new config opened : ReplayWindow κ).after before)
      ((new config opened : ReplayWindow κ).log before) p.time := by
  obtain ⟨hbefore, -, hcross⟩ := List.pairwise_append.mp hclock
  exact run_tracks_new config opened hbefore fun q hq => hcross q hq p (List.mem_cons_self ..)

/-! ## The laws of the answers -/

section Laws

variable {config : ReplayConfig} {opened : Millis} {calls : List (Presentation κ)}
  {past rest : List (Answered κ)} {c : Answered κ}

theorem time_le_of_log_split (hclock : Chronological calls)
    (hlog : (new config opened).log calls = past ++ c :: rest) : ∀ a ∈ past, a.time ≤ c.time := by
  obtain ⟨before, later, hcalls, rfl, -⟩ := log_split hlog
  exact (tracks_before config opened (hcalls ▸ hclock)).past_le

/-- A presentation is refused only within the window of an accepted one. -/
theorem refused_within (hclock : Chronological calls)
    (hlog : (new config opened).log calls = past ++ c :: rest) (hrefused : c.accepted = false) :
    ∃ a ∈ past, a.accepted = true ∧ a.key = c.key ∧ c.time < a.over config.validated.window := by
  obtain ⟨before, later, hcalls, rfl, hanswer⟩ := log_split hlog
  have h := tracks_before config opened (hcalls ▸ hclock)
  have hwithin := h.exists_of_refused (hanswer.symm.trans hrefused)
  rwa [config_after] at hwithin

/-- A key that is accepted twice within its window was crowded out in between. -/
theorem crowded_of_accepted_again (hclock : Chronological calls)
    (hlog : (new config opened).log calls = past ++ c :: rest) (haccepted : c.accepted = true)
    {a : Answered κ} (ha : a ∈ past) (hacc : a.accepted = true) (hkey : a.key = c.key)
    (hwithin : c.time < a.over config.validated.window) :
    ∃ keys : Finset κ, keys.card = config.validated.maxEntries ∧ c.key ∉ keys ∧
      ∀ k ∈ keys, ∃ p ∈ past, p.key = k ∧ a.time ≤ p.time ∧ p.time ≤ c.time := by
  obtain ⟨before, later, hcalls, rfl, hanswer⟩ := log_split hlog
  have h := tracks_before config opened (hcalls ▸ hclock)
  obtain ⟨keys, hcard, hnot, hkeys⟩ := h.crowded_of_accepted (hanswer.symm.trans haccepted) ha hacc
    hkey (by rwa [config_after])
  rw [config_after] at hcard
  refine ⟨keys, hcard, hkey ▸ hnot, fun k hk => ?_⟩
  obtain ⟨p, hp, hpk, hle⟩ := hkeys k hk
  exact ⟨p, hp, hpk, hle, h.past_le p hp⟩

/-- While no more keys come up than the window may hold, a key that was accepted stays
refused until its window is over. -/
theorem over_le_of_accepted_again (hclock : Chronological calls)
    (hfew : (calls.map Presentation.key).toFinset.card ≤ config.validated.maxEntries)
    (hlog : (new config opened).log calls = past ++ c :: rest) (haccepted : c.accepted = true)
    {a : Answered κ} (ha : a ∈ past) (hacc : a.accepted = true) (hkey : a.key = c.key) :
    a.over config.validated.window ≤ c.time := by
  rw [← Int64.not_lt]
  intro hwithin
  obtain ⟨keys, hcard, hnot, hkeys⟩ :=
    crowded_of_accepted_again hclock hlog haccepted ha hacc hkey hwithin
  have hmem : ∀ b ∈ past ++ c :: rest, b.key ∈ calls.map Presentation.key := fun b hb => by
    rw [← map_toPresentation_log (new config opened) calls, hlog]
    exact List.mem_map_of_mem (List.mem_map_of_mem hb)
  have hsub : insert c.key keys ⊆ (calls.map Presentation.key).toFinset := by
    intro k hk
    rw [List.mem_toFinset]
    rcases Finset.mem_insert.mp hk with rfl | hk
    · exact hmem c (by simp)
    · obtain ⟨p, hp, rfl, -⟩ := hkeys k hk
      exact hmem p (List.mem_append_left _ hp)
  have hcount := Finset.card_le_card hsub
  rw [Finset.card_insert_of_notMem hnot, hcard] at hcount
  omega

/-- A key that is presented once, and again when its window is over, is accepted twice. -/
theorem accepted_twice (config : ReplayConfig) {first second : Millis} (opened : Millis) (key : κ)
    (hle : first ≤ second) (hover : first.saturatingAdd config.validated.window ≤ second) :
    ((new config opened).register first key).1 = true ∧
      (((new config opened).register first key).2.register second key).1 = true := by
  have hinitial : Tracks (new config opened : ReplayWindow κ) [] first :=
    .initial config opened first
  have hlater := (hinitial.register key).later hle
  constructor
  · by_contra hrefused
    obtain ⟨a, ha, -⟩ := hinitial.exists_of_refused (Bool.not_eq_true _ ▸ hrefused)
    cases ha
  · by_contra hrefused
    obtain ⟨a, ha, -, -, hwithin⟩ := hlater.exists_of_refused (Bool.not_eq_true _ ▸ hrefused)
    rw [List.nil_append, List.mem_singleton] at ha
    rw [ha, config_register] at hwithin
    exact Int64.not_lt.mpr hover hwithin

end Laws

/-- While no more keys come up than the window may hold, acceptances of one key lie at
least a window apart. -/
theorem accepted_apart (config : ReplayConfig) (opened : Millis) {calls : List (Presentation κ)}
    (hclock : Chronological calls)
    (hfew : (calls.map Presentation.key).toFinset.card ≤ config.validated.maxEntries) :
    ((new config opened).log calls).Pairwise fun a b =>
      a.accepted = true → b.accepted = true → a.key = b.key →
        a.over config.validated.window ≤ b.time := by
  rw [List.pairwise_iff_getElem]
  intro i j hi hj hij hacc haccepted hkey
  have hlog := (List.take_append_drop j ((new config opened).log calls)).symm
  rw [List.drop_eq_getElem_cons hj] at hlog
  have hmem : ((new config opened).log calls)[i] ∈ ((new config opened).log calls).take j :=
    List.mem_take_iff_getElem.mpr ⟨i, by omega, rfl⟩
  exact over_le_of_accepted_again hclock hfew hlog haccepted hmem hacc hkey

/-! ## The reference set -/

/-- Does the reference set refuse a presentation, given the answers so far? -/
def refuses (span : Int) (past : List (Answered κ)) (p : Presentation κ) : Bool :=
  past.any fun a => a.accepted && a.key = p.key && p.time.toInt < a.time.toInt + span

/-- The answers of the reference set to a run, given those before it. -/
def referenceLog (span : Int) (past : List (Answered κ)) :
    List (Presentation κ) → List (Answered κ)
  | [] => []
  | p :: rest =>
      ⟨p, !refuses span past p⟩ :: referenceLog span (past ++ [⟨p, !refuses span past p⟩]) rest

/-- The keys presented in the stretch of time of the given length that begins at `start`. -/
def keysWithin (span : Int) (start : Millis) (calls : List (Presentation κ)) : Finset κ :=
  ((calls.filter fun p => start ≤ p.time ∧ p.time.toInt < start.toInt + span).map
    Presentation.key).toFinset

/-- No stretch of time as long as the window sees more keys than the window may hold. -/
def Uncrowded (config : ReplayConfig) (calls : List (Presentation κ)) : Prop :=
  ∀ start, (keysWithin config.validated.window.toInt start calls).card ≤
    config.validated.maxEntries

/-- Every window that a presentation could open ends within the range of instants. -/
def InRange (config : ReplayConfig) (calls : List (Presentation κ)) : Prop :=
  ∀ p ∈ calls, p.time.toInt + config.validated.window.toInt ≤ Int64.maxValue.toInt

omit [DecidableEq κ] in
theorem InRange.lt_over_iff {config : ReplayConfig} {calls : List (Presentation κ)}
    (h : InRange config calls) {p : Presentation κ} (hp : p ∈ calls) {t : Millis} :
    t < p.over config.validated.window ↔
      t.toInt < p.time.toInt + config.validated.window.toInt := by
  have hpos : (0 : Millis) ≤ config.validated.window := config.window_nonneg
  rw [Int64.lt_iff_toInt_lt, Presentation.over, Millis.toInt_saturatingAdd_of_le hpos (h p hp)]

theorem refuses_iff {span : Int} {past : List (Answered κ)} {p : Presentation κ} :
    refuses span past p = true ↔
      ∃ a ∈ past, a.accepted = true ∧ a.key = p.key ∧ p.time.toInt < a.time.toInt + span := by
  simp [refuses, and_assoc]

theorem mem_keysWithin {span : Int} {start : Millis} {calls : List (Presentation κ)} {key : κ} :
    key ∈ keysWithin span start calls ↔
      ∃ p ∈ calls, p.key = key ∧ start ≤ p.time ∧ p.time.toInt < start.toInt + span := by
  simp only [keysWithin, List.mem_toFinset, List.mem_map, List.mem_filter, decide_eq_true_eq]
  constructor
  · rintro ⟨p, ⟨hp, hrange⟩, hkey⟩
    exact ⟨p, hp, hkey, hrange⟩
  · rintro ⟨p, hp, hkey, hrange⟩
    exact ⟨p, ⟨hp, hrange⟩, hkey⟩

/-- A run that presents no more keys than the window may hold is uncrowded. -/
theorem Uncrowded.of_card_le {config : ReplayConfig} {calls : List (Presentation κ)}
    (h : (calls.map Presentation.key).toFinset.card ≤ config.validated.maxEntries) :
    Uncrowded config calls := by
  intro start
  refine (Finset.card_le_card fun key hkey => ?_).trans h
  obtain ⟨p, hp, rfl, -⟩ := mem_keysWithin.mp hkey
  exact List.mem_toFinset.mpr (List.mem_map_of_mem hp)

/-- A log is that of the reference set as soon as each answer is right given those
before it. -/
theorem eq_referenceLog (span : Int) (past answers : List (Answered κ))
    (h : ∀ before c rest, answers = before ++ c :: rest →
      c.accepted = !refuses span (past ++ before) c.toPresentation) :
    answers = referenceLog span past (answers.map Answered.toPresentation) := by
  induction answers generalizing past with
  | nil => rfl
  | cons c rest ih =>
      have hc : c = ⟨c.toPresentation, !refuses span past c.toPresentation⟩ := by
        have := h [] c rest rfl
        rw [List.append_nil] at this
        rw [← this]
      rw [List.map_cons, referenceLog, ← hc]
      congr 1
      refine ih _ fun before d later hrest => ?_
      rw [List.append_assoc]
      exact h (c :: before) d later (by rw [hrest, List.cons_append])

section Reference

variable {config : ReplayConfig} {opened : Millis} {calls : List (Presentation κ)}

/-- An answer of an uncrowded run is that of the reference set. -/
theorem accepted_eq_not_refuses (hclock : Chronological calls) (hrange : InRange config calls)
    (hroom : Uncrowded config calls) {past rest : List (Answered κ)} {c : Answered κ}
    (hlog : (new config opened).log calls = past ++ c :: rest) :
    c.accepted = !refuses config.validated.window.toInt past c.toPresentation := by
  have hmem : ∀ b ∈ past, b.toPresentation ∈ calls := fun b hb => by
    rw [← map_toPresentation_log (new config opened) calls, hlog]
    exact List.mem_map_of_mem (List.mem_append_left _ hb)
  cases hc : c.accepted with
  | false =>
      obtain ⟨a, ha, hacc, hkey, hwithin⟩ := refused_within hclock hlog hc
      have hrefuses := refuses_iff.mpr
        ⟨a, ha, hacc, hkey, (hrange.lt_over_iff (hmem a ha)).mp hwithin⟩
      rw [hrefuses]
      rfl
  | true =>
      rw [eq_comm, Bool.not_eq_true', ← Bool.not_eq_true, refuses_iff]
      rintro ⟨a, ha, hacc, hkey, hwithin⟩
      obtain ⟨keys, hcard, hnot, hkeys⟩ := crowded_of_accepted_again hclock hlog hc ha hacc hkey
        ((hrange.lt_over_iff (hmem a ha)).mpr hwithin)
      -- Together with the key itself these are too many keys for one stretch of time.
      have hbefore : a.time.toInt ≤ c.time.toInt :=
        Int64.le_iff_toInt_le.mp (time_le_of_log_split hclock hlog a ha)
      have hsub : insert c.key keys ⊆ keysWithin config.validated.window.toInt a.time calls := by
        intro k hk
        rw [mem_keysWithin]
        rcases Finset.mem_insert.mp hk with rfl | hk
        · exact ⟨a.toPresentation, hmem a ha, hkey, Int64.le_refl _, by omega⟩
        · obtain ⟨p, hp, hpk, hle, hle'⟩ := hkeys k hk
          rw [Int64.le_iff_toInt_le] at hle'
          exact ⟨p.toPresentation, hmem p hp, hpk, hle, by omega⟩
      have hcount := Finset.card_le_card hsub
      rw [Finset.card_insert_of_notMem hnot, hcard] at hcount
      have := hroom a.time
      omega

/-- An uncrowded run is answered as by the reference set. -/
theorem log_eq_reference (hclock : Chronological calls) (hrange : InRange config calls)
    (hroom : Uncrowded config calls) :
    (new config opened).log calls = referenceLog config.validated.window.toInt [] calls := by
  have h := eq_referenceLog config.validated.window.toInt [] ((new config opened).log calls)
    fun past c rest hlog => by
      rw [List.nil_append]
      exact accepted_eq_not_refuses hclock hrange hroom hlog
  rwa [map_toPresentation_log] at h

end Reference

/-! ## The guarantee -/

/-- **The replay guarantee.**  In a run whose clock does not go back and stays a window
away from the end of time, a key is refused only while the window of an accepted
presentation of it lasts.  It is accepted again within that time only if as many other
keys were presented meanwhile as the window may hold.  Hence a run that presents no
more keys than that is answered as by the reference set; and as long as no stretch of
one window sees more of them, the answers do not show when the window sweeps. -/
theorem replay_guarantee (config : ReplayConfig) (opened : Millis)
    {calls : List (Presentation κ)} (hclock : Chronological calls)
    (hrange : InRange config calls) :
    (∀ past c rest, (new config opened).log calls = past ++ c :: rest → c.accepted = false →
      ∃ a ∈ past, a.accepted = true ∧ a.key = c.key ∧
        c.time.toInt < a.time.toInt + config.validated.window.toInt) ∧
    (∀ past c rest, (new config opened).log calls = past ++ c :: rest → c.accepted = true →
      ∀ a ∈ past, a.accepted = true → a.key = c.key →
        c.time.toInt < a.time.toInt + config.validated.window.toInt →
        ∃ keys : Finset κ, keys.card = config.validated.maxEntries ∧ c.key ∉ keys ∧
          ∀ k ∈ keys, ∃ p ∈ past, p.key = k ∧ a.time ≤ p.time ∧ p.time ≤ c.time) ∧
    ((calls.map Presentation.key).toFinset.card ≤ config.validated.maxEntries →
      (new config opened).log calls = referenceLog config.validated.window.toInt [] calls) ∧
    (Uncrowded config calls →
      ∀ reopened, (new config reopened).log calls = (new config opened).log calls) := by
  have hmem : ∀ {past c rest}, (new config opened).log calls = past ++ c :: rest →
      ∀ a ∈ past, a.toPresentation ∈ calls := fun hlog a ha => by
    rw [← map_toPresentation_log (new config opened) calls, hlog]
    exact List.mem_map_of_mem (List.mem_append_left _ ha)
  refine ⟨fun past c rest hlog hrefused => ?_, ?_,
    fun hfew => log_eq_reference hclock hrange (.of_card_le hfew), fun hroom reopened => ?_⟩
  · obtain ⟨a, ha, hacc, hkey, hwithin⟩ := refused_within hclock hlog hrefused
    exact ⟨a, ha, hacc, hkey, (hrange.lt_over_iff (hmem hlog a ha)).mp hwithin⟩
  · intro past c rest hlog haccepted a ha hacc hkey hwithin
    exact crowded_of_accepted_again hclock hlog haccepted ha hacc hkey
      ((hrange.lt_over_iff (hmem hlog a ha)).mpr hwithin)
  · rw [log_eq_reference hclock hrange hroom, log_eq_reference hclock hrange hroom]

/-- The guarantee at work: one key comes back in the last instant of its window and in
the first one after it, with another key in between. -/
theorem replay_guarantee_at_boundary :
    Chronological [⟨0, 7⟩, ⟨0, 8⟩, ⟨4999, 7⟩, ⟨5000, 7⟩] ∧
      InRange ⟨5000, 2⟩ [⟨0, 7⟩, ⟨0, 8⟩, ⟨4999, 7⟩, ⟨5000, 7⟩] ∧
      (new ⟨5000, 2⟩ 0).log [⟨0, 7⟩, ⟨0, 8⟩, ⟨4999, 7⟩, ⟨5000, 7⟩] =
        referenceLog 5000 [] [⟨0, 7⟩, ⟨0, 8⟩, ⟨4999, 7⟩, ⟨5000, 7⟩] := by
  have hclock : Chronological [⟨0, 7⟩, ⟨0, 8⟩, ⟨4999, 7⟩, ⟨5000, 7⟩] := by
    unfold Chronological
    decide
  have hrange : InRange ⟨5000, 2⟩ [⟨0, 7⟩, ⟨0, 8⟩, ⟨4999, 7⟩, ⟨5000, 7⟩] := by
    unfold InRange
    decide
  exact ⟨hclock, hrange, (replay_guarantee ⟨5000, 2⟩ 0 hclock hrange).2.2.1 (by decide)⟩

/-- Where keys crowd each other out, the answers do show when the window sweeps.  The
first key is over at 10 but was seen at 9; without a sweep at 11 the second one, which
is still in its window, is given up in its place. -/
theorem sweep_shows_when_crowded :
    ¬ ∀ (config : ReplayConfig) (opened reopened : Millis) (calls : List (Presentation Nat)),
      Chronological calls → InRange config calls →
        (new config opened).log calls = (new config reopened).log calls := by
  intro h
  have hanswers := h ⟨6, 2⟩ 0 4 [⟨4, 0⟩, ⟨8, 1⟩, ⟨9, 0⟩, ⟨11, 2⟩, ⟨12, 1⟩]
    (by unfold Chronological; decide) (by unfold InRange; decide)
  revert hanswers
  decide

end ReplayWindow

end GameGateway
