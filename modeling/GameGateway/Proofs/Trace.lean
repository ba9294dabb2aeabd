import GameGateway.Proofs.Replay.Runs
import GameGateway.Surroundings

/-!
# Traces of calls

A part of a gateway is acted on by calls.  While a call is under way it may send
messages and post events, and these may lead to further calls of the same part
before it returns.  A `Trace` is a run of such calls, nested or one after the other,
with arbitrary other steps in between that leave the watched part alone; its calls
are listed in the order in which they get to the watched part.  The clock of a trace
does not go back.

What a trace does to a replay window inside the watched part is a plain run of that
window (`Trace.log_eq`), whatever the nesting was.  So the laws of such runs hold of
traces as well; `Trace.accepted_apart` is the one that is used.
-/

namespace GameGateway

/-- How calls with inputs of type `ι` act on a part of a state. -/
structure Operation (σ ι χ : Type) where
  now : σ → Millis
  /-- The watched part is in the second state as it is in the first one. -/
  Untouched : σ → σ → Prop
  /-- The state when a call has done its work on the watched part. -/
  visit : ι → σ → σ
  /-- The state when a call has returned. -/
  finish : ι → σ → σ
  /-- What is noted down of a call. -/
  record : ι → σ → χ

/-- From the first state the calls lead to the second one. -/
inductive Trace {σ ι χ : Type} (op : Operation σ ι χ) : σ → List χ → σ → Prop
  | done (s : σ) : Trace op s [] s
  | elsewhere {s s' s'' : σ} {calls : List χ} (untouched : op.Untouched s s')
      (clock : op.now s ≤ op.now s') (rest : Trace op s' calls s'') : Trace op s calls s''
  | call (input : ι) {s s' : σ} {inner calls : List χ}
      (clock : op.now s ≤ op.now (op.visit input s))
      (nested : Trace op (op.visit input s) inner (op.finish input s))
      (rest : Trace op (op.finish input s) calls s') :
      Trace op s (op.record input s :: (inner ++ calls)) s'

namespace Trace

variable {σ ι χ : Type} {op : Operation σ ι χ} {s s' : σ} {calls : List χ}

theorem append {s'' : σ} {more : List χ} (h : Trace op s calls s') (h' : Trace op s' more s'') :
    Trace op s (calls ++ more) s'' := by
  induction h with
  | done s => exact h'
  | elsewhere untouched clock rest ih => exact .elsewhere untouched clock (ih h')
  | call input clock nested rest ihNested ihRest =>
      rw [List.cons_append, List.append_assoc]
      exact .call input clock nested (ihRest h')

/-- A property of the watched part that every call keeps holds after a trace. -/
theorem invariant {P : σ → Prop} (h : Trace op s calls s')
    (huntouched : ∀ s s', op.Untouched s s' → P s → P s')
    (hvisit : ∀ input s, P s → P (op.visit input s)) (hs : P s) : P s' := by
  induction h with
  | done s => exact hs
  | elsewhere untouched clock rest ih => exact ih (huntouched _ _ untouched hs)
  | call input clock nested rest ihNested ihRest => exact ihRest (ihNested (hvisit _ _ hs))

/-- Every call of a trace is noted down from a state with the invariant. -/
theorem forall_record {P : σ → Prop} {Q : χ → Prop} (h : Trace op s calls s')
    (huntouched : ∀ s s', op.Untouched s s' → P s → P s')
    (hvisit : ∀ input s, P s → P (op.visit input s))
    (hrecord : ∀ input s, P s → Q (op.record input s)) (hs : P s) : ∀ c ∈ calls, Q c := by
  induction h with
  | done s => simp
  | elsewhere untouched clock rest ih => exact ih (huntouched _ _ untouched hs)
  | call input clock nested rest ihNested ihRest =>
      have hinner := nested.invariant huntouched hvisit (hvisit _ _ hs)
      intro c hc
      rcases List.mem_cons.mp hc with rfl | hc
      · exact hrecord _ _ hs
      · rcases List.mem_append.mp hc with hc | hc
        · exact ihNested (hvisit _ _ hs) c hc
        · exact ihRest hinner c hc

/-- The calls of a trace are noted down in the order of their instants. -/
theorem chronological {time : χ → Millis} (h : Trace op s calls s')
    (htime : ∀ input s, time (op.record input s) = op.now s) :
    op.now s ≤ op.now s' ∧ (∀ c ∈ calls, op.now s ≤ time c ∧ time c ≤ op.now s') ∧
      calls.Pairwise fun a b => time a ≤ time b := by
  induction h with
  | done s => exact ⟨Int64.le_refl _, by simp, List.Pairwise.nil⟩
  | elsewhere untouched clock rest ih =>
      obtain ⟨hle, hbetween, hpairs⟩ := ih
      exact ⟨Int64.le_trans clock hle,
        fun c hc => ⟨Int64.le_trans clock (hbetween c hc).1, (hbetween c hc).2⟩, hpairs⟩
  | @call input s s' inner calls clock nested rest ihNested ihRest =>
      obtain ⟨hle, hbetween, hpairs⟩ := ihNested
      obtain ⟨hle', hbetween', hpairs'⟩ := ihRest
      have hfinish := Int64.le_trans clock hle
      have hlow : ∀ c ∈ inner ++ calls, op.now s ≤ time c ∧ time c ≤ op.now s' := by
        intro c hc
        rcases List.mem_append.mp hc with hc | hc
        · exact ⟨Int64.le_trans clock (hbetween c hc).1, Int64.le_trans (hbetween c hc).2 hle'⟩
        · exact ⟨Int64.le_trans hfinish (hbetween' c hc).1, (hbetween' c hc).2⟩
      refine ⟨Int64.le_trans hfinish hle', fun c hc => ?_,
        List.pairwise_cons.mpr ⟨fun c hc => ?_, ?_⟩⟩
      · rcases List.mem_cons.mp hc with rfl | hc
        · rw [htime]
          exact ⟨Int64.le_refl _, Int64.le_trans hfinish hle'⟩
        · exact hlow c hc
      · rw [htime]
        exact (hlow c hc).1
      · refine List.pairwise_append.mpr ⟨hpairs, hpairs', fun a ha b hb => ?_⟩
        exact Int64.le_trans (hbetween a ha).2 (hbetween' b hb).1

/-! ## Replay windows in traces -/

variable {κ : Type} [DecidableEq κ]

open ReplayWindow (Answered Presentation Tracks)

/-- How a call acts on a replay window: it leaves it alone, or it presents one key. -/
def Presents (window : σ → ReplayWindow κ) (op : Operation σ ι χ)
    (answered : χ → Option (Answered κ)) (input : ι) (s : σ) : Prop :=
  (answered (op.record input s) = none ∧ window (op.visit input s) = window s) ∨
    ∃ key, answered (op.record input s) =
        some ⟨⟨op.now s, key⟩, ((window s).register (op.now s) key).1⟩ ∧
      window (op.visit input s) = ((window s).register (op.now s) key).2

/-- As long as `P` holds, the calls act on a window inside the watched part, and what is
noted down of them tells what they have presented and when. -/
structure Watches (op : Operation σ ι χ) (P : σ → Prop) (window : σ → ReplayWindow κ)
    (time : χ → Millis) (answered : χ → Option (Answered κ)) : Prop where
  untouched : ∀ s s', op.Untouched s s' → P s → P s' ∧ window s' = window s
  visit : ∀ input s, P s → P (op.visit input s)
  presents : ∀ input s, P s → Presents window op answered input s
  time_record : ∀ input s, time (op.record input s) = op.now s
  time_answered : ∀ c a, answered c = some a → a.time = time c

section Watches

variable {P : σ → Prop} {window : σ → ReplayWindow κ} {time : χ → Millis}
  {answered : χ → Option (Answered κ)} {config : ReplayConfig} {opened : Millis}

/-- The presentations of a trace are a run of the window. -/
theorem log_eq (h : Trace op s calls s') (hw : Watches op P window time answered) (hs : P s) :
    (window s).log ((calls.filterMap answered).map Answered.toPresentation) =
        calls.filterMap answered ∧
      window s' = (window s).after ((calls.filterMap answered).map Answered.toPresentation) := by
  induction h with
  | done s => exact ⟨rfl, rfl⟩
  | elsewhere untouched clock rest ih =>
      obtain ⟨hs', hsame⟩ := hw.untouched _ _ untouched hs
      rw [← hsame]
      exact ih hs'
  | @call input s s' inner calls clock nested rest ihNested ihRest =>
      have hfinish := nested.invariant (fun s s' hu hs => (hw.untouched s s' hu hs).1) hw.visit
        (hw.visit _ _ hs)
      obtain ⟨hlog, hafter⟩ := ihNested (hw.visit _ _ hs)
      obtain ⟨hlog', hafter'⟩ := ihRest hfinish
      rw [hafter] at hlog' hafter'
      rcases hw.presents input s hs with ⟨hnone, hsame⟩ | ⟨key, hsome, hsame⟩
      · rw [List.filterMap_cons_none hnone, List.filterMap_append, List.map_append,
          ReplayWindow.log_append, ReplayWindow.after_append]
        rw [hsame] at hlog hlog' hafter'
        exact ⟨by rw [hlog, hlog'], hafter'⟩
      · rw [List.filterMap_cons_some hsome, List.map_cons, List.filterMap_append, List.map_append]
        rw [hsame] at hlog hlog' hafter'
        simp only [ReplayWindow.log, ReplayWindow.after, ReplayWindow.log_append,
          ReplayWindow.after_append]
        exact ⟨by rw [hlog, hlog'], hafter'⟩

theorem chronological_presentations (h : Trace op s calls s')
    (hw : Watches op P window time answered) :
    ReplayWindow.Chronological ((calls.filterMap answered).map Answered.toPresentation) ∧
      ∀ p ∈ (calls.filterMap answered).map Answered.toPresentation, p.time ≤ op.now s' := by
  obtain ⟨-, hbetween, hpairs⟩ := h.chronological hw.time_record
  constructor
  · refine List.pairwise_map.mpr (List.pairwise_filterMap.mpr ?_)
    refine hpairs.imp fun {c d} hle a ha b hb => ?_
    rw [hw.time_answered c a ha, hw.time_answered d b hb]
    exact hle
  · intro p hp
    obtain ⟨a, ha, rfl⟩ := List.mem_map.mp hp
    obtain ⟨c, hc, hca⟩ := List.mem_filterMap.mp ha
    rw [hw.time_answered c a hca]
    exact (hbetween c hc).2

/-- After a trace from a new window, the window knows what was presented to it. -/
theorem tracks (h : Trace op s calls s') (hw : Watches op P window time answered) (hs : P s)
    (hnew : window s = .new config opened) :
    Tracks (window s') (calls.filterMap answered) (op.now s') := by
  obtain ⟨hlog, hafter⟩ := h.log_eq hw hs
  obtain ⟨hclock, huntil⟩ := h.chronological_presentations hw
  have hrun := ReplayWindow.run_tracks_new config opened hclock huntil
  rwa [← hnew, hlog, ← hafter] at hrun

/-- In a trace from a new window that sees no more keys than it may hold, acceptances of
one key lie at least a window apart. -/
theorem accepted_apart (h : Trace op s calls s') (hw : Watches op P window time answered)
    (hs : P s) (hnew : window s = .new config opened)
    (hfew : ((calls.filterMap answered).map fun a => a.key).toFinset.card ≤
      config.validated.maxEntries) :
    calls.Pairwise fun c d => ∀ a, answered c = some a → ∀ b, answered d = some b →
      a.accepted = true → b.accepted = true → a.key = b.key →
        a.over config.validated.window ≤ b.time := by
  obtain ⟨hlog, -⟩ := h.log_eq hw hs
  have hpairs := ReplayWindow.accepted_apart config opened (h.chronological_presentations hw).1
    (by rw [List.map_map]; exact hfew)
  rw [← hnew, hlog] at hpairs
  exact List.pairwise_filterMap.mp hpairs

end Watches

end Trace

end GameGateway
