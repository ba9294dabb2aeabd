import GameGateway.Guard.InFlight
import GameGateway.Proofs.Entries
import Mathlib.Data.List.Induction
import Mathlib.Data.List.Nodup

/-!
# How many leases are out

A limiter is used through handles.  A clone of a handle leads to the limiter that the handle leads
to, so leases taken through one of them count for all; limiters that were made apart share
nothing.  A log beside the limiters tells what was done with them.  It says where a handle comes
from (`LeaseLog.origin?`), and which of the leases granted by a limiter are out: those that were
neither released nor dropped (`LeaseLog.outstanding`).

A lease may be released any number of times, before it is dropped and after, and is out until the
first of these times.  `LeaseBook.Follows` says that a limiter knows this: it keeps for each lease
whether it was released, and its count is the number of leases that are out.  A lease that would
give a slot back is one of these, so the count is positive when that happens.
-/

namespace GameGateway

/-- What is done with limiters and leases. -/
inductive LeaseStep where
  | create (limit : Nat)
  | clone (handle : Nat)
  | acquire (handle : Nat)
  | release (lease : Nat)
  | drop (lease : Nat)

/-- What has been done, with the answers.  Handles and leases have numbers. -/
inductive LeaseEvent where
  | created (handle limit : Nat)
  | cloned (handle original : Nat)
  | granted (lease handle : Nat)
  | refused (handle : Nat) (error : Saturated)
  | released (lease : Nat)
  | dropped (lease : Nat)
deriving DecidableEq

namespace LeaseLog

/-- The handle that was made with the limiter to which a handle leads. -/
def origin? (handle : Nat) : List LeaseEvent → Option Nat
  | [] => none
  | .created made _ :: past => if made = handle then some handle else origin? handle past
  | .cloned made original :: past =>
      if made = handle then origin? original past else origin? handle past
  | _ :: past => origin? handle past

/-- The leases granted through a handle and its clones, last one first. -/
def grants (origin : Nat) : List LeaseEvent → List Nat
  | [] => []
  | .granted lease handle :: past =>
      if origin? handle past = some origin then lease :: grants origin past
      else grants origin past
  | _ :: past => grants origin past

/-- The lease was neither released nor dropped. -/
def IsOut (lease : Nat) (past : List LeaseEvent) : Prop :=
  .released lease ∉ past ∧ .dropped lease ∉ past

instance (lease : Nat) (past : List LeaseEvent) : Decidable (IsOut lease past) :=
  inferInstanceAs (Decidable (_ ∧ _))

/-- The leases granted through a handle and its clones that are out. -/
def outstanding (origin : Nat) (past : List LeaseEvent) : List Nat :=
  (grants origin past).filter (IsOut · past)

end LeaseLog

open LeaseLog

/-- Limiters with their leases, each under the number of the handle it was made with, and the
handles and leases that refer to them; the log is beside all this, latest event first. -/
structure LeaseRun where
  books : Table Nat (LeaseBook Nat)
  handles : Table Nat Nat
  owners : Table Nat Nat
  next : Nat
  past : List LeaseEvent

namespace LeaseRun

/-- No limiter was made yet. -/
def start : LeaseRun := ⟨.empty, .empty, .empty, 0, []⟩

/-- The limiter to which a handle leads, with its leases. -/
def book? (run : LeaseRun) (handle : Nat) : Option (LeaseBook Nat) :=
  (run.handles.get? handle).bind run.books.get?

/-- One step.  Nothing is done through a handle or with a lease that there is not. -/
def perform (run : LeaseRun) : LeaseStep → LeaseRun
  | .create limit =>
      ⟨run.books.insert run.next (.new limit), run.handles.insert run.next run.next, run.owners,
        run.next + 1, .created run.next limit :: run.past⟩
  | .clone handle =>
      match run.handles.get? handle with
      | none => run
      | some origin =>
          ⟨run.books, run.handles.insert run.next origin, run.owners, run.next + 1,
            .cloned run.next handle :: run.past⟩
  | .acquire handle =>
      match run.handles.get? handle with
      | none => run
      | some origin =>
          match run.books.get? origin with
          | none => run
          | some book =>
              match book.acquire run.next with
              | .error error => { run with past := .refused handle error :: run.past }
              | .ok book =>
                  ⟨run.books.insert origin book, run.handles, run.owners.insert run.next origin,
                    run.next + 1, .granted run.next handle :: run.past⟩
  | .release lease =>
      match run.owners.get? lease with
      | none => run
      | some origin =>
          { run with
            books := run.books.update origin (·.release lease)
            past := .released lease :: run.past }
  | .drop lease =>
      match run.owners.get? lease with
      | none => run
      | some origin =>
          { run with
            books := run.books.update origin (·.drop lease)
            past := .dropped lease :: run.past }

/-- Some steps, beginning without limiters. -/
def after (steps : List LeaseStep) : LeaseRun := steps.foldl perform start

end LeaseRun

variable {book : LeaseBook Nat} {origin lease handle limit : Nat} {past : List LeaseEvent}
  {event : LeaseEvent}

/-! ## What is done with one book -/

theorem Lease.release_snd (kept : Lease) (limiter : InFlight) :
    (kept.release limiter).2 = if kept = ⟨false⟩ then limiter.giveBack else limiter := by
  obtain ⟨released⟩ := kept
  cases released <;> simp [Lease.release]

namespace LeaseBook

theorem acquire_of_full (h : book.limiter.limit ≤ book.limiter.count) (lease : Nat) :
    book.acquire lease = .error ⟨book.limiter.limit⟩ := by
  rw [acquire, InFlight.acquire, if_pos h]
  rfl

/-- A lease that is new takes the place of no other. -/
theorem acquire_of_room (h : book.limiter.count < book.limiter.limit)
    (hnew : book.leases.get? lease = none) :
    book.acquire lease = .ok ⟨{ book.limiter with count := book.limiter.count + 1 },
      book.leases.insert lease ⟨false⟩⟩ := by
  rw [acquire, InFlight.acquire, if_neg (Nat.not_le.mpr h)]
  simp only [drop, bind, Except.bind, hnew]
  rfl

/-- The limiter of a book after a call that does to it what releasing the lease does. -/
theorem limiter_of_release {book' : LeaseBook Nat}
    (hnone : book.leases.get? lease = none → book'.limiter = book.limiter)
    (hsome : ∀ kept, book.leases.get? lease = some kept →
      book'.limiter = (kept.release book.limiter).2) :
    book'.limiter =
      if book.leases.get? lease = some ⟨false⟩ then book.limiter.giveBack else book.limiter := by
  cases hkept : book.leases.get? lease with
  | none => exact hnone hkept
  | some kept =>
      rw [hsome kept hkept, kept.release_snd]
      simp only [Option.some.injEq]

theorem limiter_release (book : LeaseBook Nat) (lease : Nat) :
    (book.release lease).limiter =
      if book.leases.get? lease = some ⟨false⟩ then book.limiter.giveBack else book.limiter := by
  apply limiter_of_release
  · intro hnone
    rw [release, hnone]
  · intro kept hsome
    rw [release, hsome]

theorem limiter_drop (book : LeaseBook Nat) (lease : Nat) :
    (book.drop lease).limiter =
      if book.leases.get? lease = some ⟨false⟩ then book.limiter.giveBack else book.limiter := by
  apply limiter_of_release
  · intro hnone
    rw [drop, hnone]
  · intro kept hsome
    rw [drop, hsome]

theorem get?_release (book : LeaseBook Nat) (lease other : Nat) :
    (book.release lease).leases.get? other =
      if other = lease then (book.leases.get? lease).map fun _ => ⟨true⟩
      else book.leases.get? other := by
  unfold release
  cases hkept : book.leases.get? lease with
  | none =>
      by_cases hsame : other = lease
      · rw [if_pos hsame, hsame, Option.map_none]
        exact hkept
      · rw [if_neg hsame]
  | some kept =>
      obtain ⟨released⟩ := kept
      cases released <;> simp [Lease.release]

theorem get?_drop (book : LeaseBook Nat) (lease other : Nat) :
    (book.drop lease).leases.get? other =
      if other = lease then none else book.leases.get? other := by
  unfold drop
  cases hkept : book.leases.get? lease with
  | none =>
      by_cases hsame : other = lease
      · rw [if_pos hsame, hsame]
        exact hkept
      · rw [if_neg hsame]
  | some kept => exact Table.get?_erase ..

end LeaseBook

/-! ## What the log says -/

/-- The number that an event is about: that of a new handle or of a lease, or of the handle through
which a lease was refused. -/
def LeaseEvent.number : LeaseEvent → Nat
  | .created handle _ => handle
  | .cloned handle _ => handle
  | .granted lease _ => lease
  | .refused handle _ => handle
  | .released lease => lease
  | .dropped lease => lease

/-- The event is about the limiter made with the handle `origin`; `past` is the log before it. -/
def LeaseEvent.Touches (origin : Nat) (past : List LeaseEvent) : LeaseEvent → Prop
  | .created handle _ => handle = origin
  | .cloned _ _ => False
  | .granted _ handle => origin? handle past = some origin
  | .refused _ _ => False
  | .released lease => lease ∈ grants origin past
  | .dropped lease => lease ∈ grants origin past

/-- Other events make no limiter. -/
theorem created_of_mem_cons (hmem : .created origin limit ∈ event :: past)
    (hevent : ∀ handle limit, event ≠ .created handle limit) : .created origin limit ∈ past :=
  List.mem_of_ne_of_mem (hevent origin limit).symm hmem

theorem created_of_origin? (h : origin? handle past = some origin) :
    ∃ limit, .created origin limit ∈ past := by
  induction past generalizing handle with
  | nil => cases h
  | cons event past ih =>
      have hbefore : ∀ {other}, origin? other past = some origin →
          ∃ limit, .created origin limit ∈ event :: past := by
        intro other hother
        obtain ⟨limit, hmem⟩ := ih hother
        exact ⟨limit, List.mem_cons_of_mem event hmem⟩
      cases event with
      | created made limit =>
          rw [origin?] at h
          split at h
          · rename_i hsame
            cases h
            exact ⟨limit, hsame ▸ List.mem_cons_self⟩
          · exact hbefore h
      | cloned made original =>
          rw [origin?] at h
          split at h
          · exact hbefore h
          · exact hbefore h
      | _ => exact hbefore h

theorem lt_of_origin? {next : Nat} (hbelow : ∀ event ∈ past, event.number < next)
    (h : origin? handle past = some origin) : handle < next := by
  induction past with
  | nil => cases h
  | cons event past ih =>
      obtain ⟨hevent, hpast⟩ := List.forall_mem_cons.mp hbelow
      cases event with
      | created made limit =>
          rw [origin?] at h
          split at h
          · rename_i hsame
            exact hsame ▸ hevent
          · exact ih hpast h
      | cloned made original =>
          rw [origin?] at h
          split at h
          · rename_i hsame
            exact hsame ▸ hevent
          · exact ih hpast h
      | _ => exact ih hpast h

/-- A lease was granted, by a limiter that was made before. -/
theorem granted_of_mem_grants (h : lease ∈ grants origin past) :
    (∃ handle, .granted lease handle ∈ past) ∧ ∃ limit, .created origin limit ∈ past := by
  induction past with
  | nil => cases h
  | cons event past ih =>
      have hbefore : lease ∈ grants origin past →
          (∃ handle, .granted lease handle ∈ event :: past) ∧
            ∃ limit, .created origin limit ∈ event :: past := by
        intro hmem
        obtain ⟨⟨handle, hgranted⟩, limit, hcreated⟩ := ih hmem
        exact ⟨⟨handle, List.mem_cons_of_mem event hgranted⟩, limit,
          List.mem_cons_of_mem event hcreated⟩
      cases event with
      | granted new handle =>
          rw [grants] at h
          split at h
          · rename_i horigin
            rcases List.mem_cons.mp h with rfl | hmem
            · obtain ⟨limit, hcreated⟩ := created_of_origin? horigin
              exact ⟨⟨handle, List.mem_cons_self⟩, limit, List.mem_cons_of_mem _ hcreated⟩
            · exact hbefore hmem
          · exact hbefore h
      | _ => exact hbefore h

theorem mem_outstanding_iff :
    lease ∈ outstanding origin past ↔ lease ∈ grants origin past ∧ IsOut lease past := by
  rw [outstanding, List.mem_filter, decide_eq_true_eq]

theorem grants_of_other (h : ¬ event.Touches origin past) :
    grants origin (event :: past) = grants origin past := by
  cases event with
  | granted lease handle => exact if_neg h
  | _ => rfl

theorem outstanding_of_other (h : ¬ event.Touches origin past) :
    outstanding origin (event :: past) = outstanding origin past := by
  rw [outstanding, grants_of_other h]
  refine List.filter_congr fun lease hlease => ?_
  have hreleased : .released lease ∈ event :: past ↔ .released lease ∈ past :=
    mem_cons_iff_of_other h hlease
  have hdropped : .dropped lease ∈ event :: past ↔ .dropped lease ∈ past :=
    mem_cons_iff_of_other h hlease
  rw [decide_eq_decide, IsOut, IsOut, hreleased, hdropped]

/-- A lease that is released or dropped is not out any more. -/
theorem outstanding_ended (hnodup : (grants origin past).Nodup)
    (hgrants : grants origin (event :: past) = grants origin past)
    (hisOut : ∀ other, IsOut other (event :: past) ↔ other ≠ lease ∧ IsOut other past) :
    outstanding origin (event :: past) = (outstanding origin past).erase lease := by
  have hfilter : (outstanding origin past).Nodup := hnodup.filter _
  rw [hfilter.erase_eq_filter, outstanding, outstanding, hgrants, List.filter_filter]
  refine List.filter_congr fun other _ => ?_
  rw [Bool.eq_iff_iff, Bool.and_eq_true, decide_eq_true_eq, decide_eq_true_eq, bne_iff_ne]
  exact hisOut other

/-! ## A limiter and the log -/

/-- A limiter with its leases, as the log tells them. -/
structure LeaseBook.Follows (book : LeaseBook Nat) (origin : Nat) (past : List LeaseEvent) :
    Prop where
  limit : ∀ limit, .created origin limit ∈ past → book.limiter.limit = max 1 limit
  count : book.limiter.count = (outstanding origin past).length
  bounded : book.limiter.count ≤ book.limiter.limit
  kept : ∀ lease, book.leases.get? lease =
    if lease ∈ grants origin past ∧ .dropped lease ∉ past then
      some ⟨.released lease ∈ past⟩
    else none
  /-- No two leases have one number. -/
  nodup : (grants origin past).Nodup

namespace LeaseBook.Follows

theorem unreleased_iff (h : book.Follows origin past) :
    book.leases.get? lease = some ⟨false⟩ ↔ lease ∈ outstanding origin past := by
  rw [h.kept, mem_outstanding_iff, IsOut]
  split
  · rename_i hkept
    simp [hkept.1, hkept.2]
  · rename_i hgone
    constructor
    · intro hsome
      cases hsome
    · rintro ⟨hmem, -, hdropped⟩
      exact absurd ⟨hmem, hdropped⟩ hgone

theorem of_other (h : book.Follows origin past) (hother : ¬ event.Touches origin past) :
    book.Follows origin (event :: past) where
  limit limit hmem := by
    have hcreated : LeaseEvent.Touches origin past (.created origin limit) := rfl
    exact h.limit limit ((mem_cons_iff_of_other hother hcreated).mp hmem)
  count := by rw [outstanding_of_other hother, h.count]
  bounded := h.bounded
  kept lease := by
    rw [h.kept, grants_of_other hother]
    by_cases hmem : lease ∈ grants origin past
    · have hreleased : .released lease ∈ event :: past ↔ .released lease ∈ past :=
        mem_cons_iff_of_other hother hmem
      have hdropped : .dropped lease ∈ event :: past ↔ .dropped lease ∈ past :=
        mem_cons_iff_of_other hother hmem
      simp only [hreleased, hdropped]
    · simp only [hmem, false_and, if_false]
  nodup := by rw [grants_of_other hother]; exact h.nodup

/-- A limiter that was just made has granted nothing. -/
theorem created (hnew : ∀ event ∈ past, event.number < origin) (limit : Nat) :
    (LeaseBook.new limit).Follows origin (.created origin limit :: past) := by
  have hnone : grants origin past = [] := by
    refine List.eq_nil_iff_forall_not_mem.mpr fun lease hmem => ?_
    obtain ⟨-, other, hcreated⟩ := granted_of_mem_grants hmem
    exact Nat.lt_irrefl origin (hnew _ hcreated)
  have hgrants : grants origin (.created origin limit :: past) = [] := hnone
  refine ⟨?_, ?_, Nat.zero_le _, ?_, ?_⟩
  · intro other hmem
    rcases List.mem_cons.mp hmem with heq | hmem
    · cases heq
      rfl
    · exact absurd (hnew _ hmem) (Nat.lt_irrefl origin)
  · rw [outstanding, hgrants]
    rfl
  · intro lease
    rw [hgrants, if_neg (by simp)]
    rfl
  · rw [hgrants]
    exact List.nodup_nil

theorem granted (h : book.Follows origin past) (horigin : origin? handle past = some origin)
    (hnew : ∀ event ∈ past, event.number < lease)
    (hroom : book.limiter.count < book.limiter.limit) :
    Follows ⟨{ book.limiter with count := book.limiter.count + 1 },
      book.leases.insert lease ⟨false⟩⟩ origin (.granted lease handle :: past) := by
  have hfresh : ∀ event ∈ past, event.number ≠ lease := fun event hmem =>
    Nat.ne_of_lt (hnew event hmem)
  have hnot : lease ∉ grants origin past := by
    intro hmem
    obtain ⟨⟨other, hgranted⟩, -⟩ := granted_of_mem_grants hmem
    exact hfresh _ hgranted rfl
  have hreleased : LeaseEvent.released lease ∉ past := fun hmem => hfresh _ hmem rfl
  have hdropped : LeaseEvent.dropped lease ∉ past := fun hmem => hfresh _ hmem rfl
  have hgrants : grants origin (.granted lease handle :: past) = lease :: grants origin past :=
    if_pos horigin
  have hsame : ∀ other, IsOut other (.granted lease handle :: past) ↔ IsOut other past := by
    intro other
    simp [IsOut]
  refine ⟨?_, ?_, hroom, ?_, ?_⟩
  · intro limit hmem
    exact h.limit limit (created_of_mem_cons hmem (by simp))
  · have houtstanding : outstanding origin (.granted lease handle :: past) =
        lease :: outstanding origin past := by
      simp only [outstanding, hgrants, hsame]
      exact List.filter_cons_of_pos (decide_eq_true ⟨hreleased, hdropped⟩)
    rw [houtstanding, List.length_cons, ← h.count]
  · intro other
    rw [Table.get?_insert, hgrants]
    by_cases hother : other = lease
    · subst hother
      simp [hreleased, hdropped]
    · simp [hother, h.kept]
  · rw [hgrants]
    exact List.nodup_cons.mpr ⟨hnot, h.nodup⟩

/-- A lease comes back with the first of the times that it is released or dropped. -/
theorem ended {book' : LeaseBook Nat} (h : book.Follows origin past)
    (hlimiter : book'.limiter =
      if book.leases.get? lease = some ⟨false⟩ then book.limiter.giveBack else book.limiter)
    (hgrants : grants origin (event :: past) = grants origin past)
    (hisOut : ∀ other, IsOut other (event :: past) ↔ other ≠ lease ∧ IsOut other past)
    (hevent : ∀ handle limit, event ≠ .created handle limit)
    (hkept : ∀ other, book'.leases.get? other =
      if other ∈ grants origin past ∧ .dropped other ∉ event :: past then
        some ⟨.released other ∈ event :: past⟩
      else none) :
    book'.Follows origin (event :: past) := by
  have houtstanding := outstanding_ended h.nodup hgrants hisOut
  have hlimit : book'.limiter.limit = book.limiter.limit := by
    rw [hlimiter]
    split <;> rfl
  have hcount : book'.limiter.count = (outstanding origin (event :: past)).length := by
    rw [houtstanding, List.length_erase, ← h.count, hlimiter]
    by_cases hout : lease ∈ outstanding origin past
    · rw [if_pos hout, if_pos (h.unreleased_iff.mpr hout)]
      rfl
    · rw [if_neg hout, if_neg (mt h.unreleased_iff.mp hout)]
  refine ⟨?_, hcount, ?_, ?_, ?_⟩
  · intro limit hmem
    rw [hlimit]
    exact h.limit limit (created_of_mem_cons hmem hevent)
  · rw [hcount, houtstanding, hlimit]
    exact Nat.le_trans (List.length_erase_le ..) (h.count ▸ h.bounded)
  · rw [hgrants]
    exact hkept
  · rw [hgrants]
    exact h.nodup

theorem released (h : book.Follows origin past) (lease : Nat) :
    (book.release lease).Follows origin (.released lease :: past) := by
  refine h.ended (book.limiter_release lease) rfl ?_ (by simp) ?_
  · intro other
    simp only [IsOut, List.mem_cons, LeaseEvent.released.injEq, reduceCtorEq, false_or, not_or]
    exact and_assoc
  · intro other
    rw [LeaseBook.get?_release]
    by_cases hother : other = lease
    · subst hother
      rw [if_pos rfl, h.kept]
      split <;> simp_all
    · simp [hother, h.kept]

theorem dropped (h : book.Follows origin past) (lease : Nat) :
    (book.drop lease).Follows origin (.dropped lease :: past) := by
  refine h.ended (book.limiter_drop lease) rfl ?_ (by simp) ?_
  · intro other
    simp only [IsOut, List.mem_cons, LeaseEvent.dropped.injEq, reduceCtorEq, false_or, not_or]
    exact and_left_comm
  · intro other
    rw [LeaseBook.get?_drop]
    by_cases hother : other = lease
    · subst hother
      simp
    · simp [hother, h.kept]

end LeaseBook.Follows

/-! ## All limiters and the log -/

namespace LeaseRun

/-- Handles, leases and limiters are what the log says of them. -/
structure Faithful (run : LeaseRun) : Prop where
  handles : ∀ handle, run.handles.get? handle = origin? handle run.past
  owners : ∀ lease origin,
    run.owners.get? lease = some origin ↔ lease ∈ grants origin run.past
  made : ∀ origin limit, .created origin limit ∈ run.past →
    ∃ book, run.books.get? origin = some book
  /-- The handle with which a limiter was made leads to it. -/
  roots : ∀ origin limit, .created origin limit ∈ run.past →
    run.handles.get? origin = some origin
  follows : ∀ origin book, run.books.get? origin = some book → book.Follows origin run.past
  numbered : ∀ event ∈ run.past, event.number < run.next

namespace Faithful

variable {run : LeaseRun}

/-- The numbers of the events before are below the next one, and stay so. -/
theorem numbered_cons (h : run.Faithful) (hevent : event.number < run.next + 1) :
    ∀ e ∈ event :: run.past, e.number < run.next + 1 :=
  List.forall_mem_cons.mpr ⟨hevent, fun e he => Nat.lt_succ_of_lt (h.numbered e he)⟩

theorem lt_of_mem_grants (h : run.Faithful) (hmem : lease ∈ grants origin run.past) :
    lease < run.next := by
  obtain ⟨⟨handle, hgranted⟩, -⟩ := granted_of_mem_grants hmem
  exact h.numbered _ hgranted

/-- A lease was granted by one limiter only. -/
theorem origin_unique (h : run.Faithful) {other : Nat} (hlease : lease ∈ grants origin run.past)
    (hother : lease ∈ grants other run.past) : other = origin := by
  rw [← h.owners] at hlease hother
  exact Option.some.inj (hother.symm.trans hlease)

/-- What an event changes is about one limiter; the others stay as the log tells them. -/
theorem follows_insert (h : run.Faithful) {book : LeaseBook Nat}
    (hbook : book.Follows origin (event :: run.past))
    (hothers : ∀ other, event.Touches other run.past → other = origin) :
    ∀ other book', (run.books.insert origin book).get? other = some book' →
      book'.Follows other (event :: run.past) := by
  intro other book' hget
  rw [Table.get?_insert] at hget
  split at hget
  · rename_i hsame
    cases hget
    exact hsame ▸ hbook
  · rename_i hother
    exact (h.follows other book' hget).of_other (mt (hothers other) hother)

/-- Where nothing is about a limiter, all limiters stay as they are. -/
theorem follows_keep (h : run.Faithful) (hnone : ∀ other, ¬ event.Touches other run.past) :
    ∀ other book, run.books.get? other = some book → book.Follows other (event :: run.past) :=
  fun other book hget => (h.follows other book hget).of_other (hnone other)

/-- A limiter that was made is there, whichever one is stored. -/
theorem made_insert (h : run.Faithful) {other limit : Nat}
    (hmade : .created other limit ∈ run.past) (book : LeaseBook Nat) :
    ∃ book', (run.books.insert origin book).get? other = some book' := by
  rw [Table.get?_insert]
  split
  · exact ⟨book, rfl⟩
  · exact h.made other limit hmade

/-- The handles with which limiters were made are older than a new handle. -/
theorem roots_insert (h : run.Faithful) {other limit : Nat}
    (hmade : .created other limit ∈ run.past) (leadsTo : Nat) :
    (run.handles.insert run.next leadsTo).get? other = some other := by
  have hbefore : other < run.next := h.numbered _ hmade
  rw [Table.get?_insert, if_neg (Nat.ne_of_lt hbefore)]
  exact h.roots other limit hmade

theorem initial : start.Faithful where
  handles _ := rfl
  owners lease origin := by simp [start, grants]
  made _ _ hmem := by cases hmem
  roots _ _ hmem := by cases hmem
  follows _ _ hget := by cases hget
  numbered _ hmem := by cases hmem

/-! ### Steps -/

protected theorem create (h : run.Faithful) (limit : Nat) :
    (run.perform (.create limit)).Faithful := by
  refine ⟨?_, h.owners, ?_, ?_, ?_, h.numbered_cons (Nat.lt_succ_self _)⟩
  · intro handle
    change (run.handles.insert run.next run.next).get? handle =
      origin? handle (.created run.next limit :: run.past)
    rw [Table.get?_insert, origin?, h.handles]
    by_cases hsame : handle = run.next
    · rw [if_pos hsame, if_pos hsame.symm, hsame]
    · rw [if_neg hsame, if_neg (Ne.symm hsame)]
  · intro other otherLimit hmem
    rcases List.mem_cons.mp hmem with heq | hmem
    · cases heq
      exact ⟨.new limit, by simp [perform]⟩
    · exact h.made_insert hmem _
  · intro other otherLimit hmem
    rcases List.mem_cons.mp hmem with heq | hmem
    · cases heq
      simp [perform]
    · exact h.roots_insert hmem _
  · exact h.follows_insert (.created h.numbered limit) fun other hsame => Eq.symm hsame

protected theorem clone (h : run.Faithful) (handle : Nat) :
    (run.perform (.clone handle)).Faithful := by
  simp only [perform]
  cases horigin : run.handles.get? handle with
  | none => exact h
  | some origin =>
      refine ⟨?_, h.owners, ?_, ?_, h.follows_keep fun other => id,
        h.numbered_cons (Nat.lt_succ_self _)⟩
      · intro other
        rw [Table.get?_insert, origin?, h.handles, ← h.handles handle, horigin]
        by_cases hsame : other = run.next
        · rw [if_pos hsame, if_pos hsame.symm]
        · rw [if_neg hsame, if_neg (Ne.symm hsame)]
      · intro other limit hmem
        exact h.made other limit (created_of_mem_cons hmem (by simp))
      · intro other limit hmem
        exact h.roots_insert (created_of_mem_cons hmem (by simp)) origin

/-- A handle leads to a limiter. -/
theorem book_of_handle (h : run.Faithful) (horigin : run.handles.get? handle = some origin) :
    ∃ book, run.books.get? origin = some book ∧ book.Follows origin run.past := by
  rw [h.handles] at horigin
  obtain ⟨limit, hcreated⟩ := created_of_origin? horigin
  obtain ⟨book, hbook⟩ := h.made origin limit hcreated
  exact ⟨book, hbook, h.follows origin book hbook⟩

theorem perform_acquire_of_full (horigin : run.handles.get? handle = some origin)
    (hbook : run.books.get? origin = some book)
    (hfull : book.limiter.limit ≤ book.limiter.count) :
    run.perform (.acquire handle) =
      { run with past := .refused handle ⟨book.limiter.limit⟩ :: run.past } := by
  simp only [perform, horigin, hbook, LeaseBook.acquire_of_full hfull]

theorem perform_acquire_of_room (h : run.Faithful)
    (horigin : run.handles.get? handle = some origin) (hbook : run.books.get? origin = some book)
    (hroom : book.limiter.count < book.limiter.limit) :
    run.perform (.acquire handle) =
      ⟨run.books.insert origin ⟨{ book.limiter with count := book.limiter.count + 1 },
          book.leases.insert run.next ⟨false⟩⟩,
        run.handles, run.owners.insert run.next origin, run.next + 1,
        .granted run.next handle :: run.past⟩ := by
  have hnew : book.leases.get? run.next = none := by
    rw [(h.follows origin book hbook).kept]
    refine if_neg fun ⟨hmem, _⟩ => ?_
    exact Nat.lt_irrefl _ (h.lt_of_mem_grants hmem)
  simp only [perform, horigin, hbook, LeaseBook.acquire_of_room hroom hnew]

theorem owners_insert (h : run.Faithful) (horigin : origin? handle run.past = some origin) :
    ∀ lease other, (run.owners.insert run.next origin).get? lease = some other ↔
      lease ∈ grants other (.granted run.next handle :: run.past) := by
  intro lease other
  rw [Table.get?_insert, grants, horigin]
  by_cases hnew : lease = run.next
  · have hnot : run.next ∉ grants other run.past := fun hmem =>
      Nat.lt_irrefl _ (h.lt_of_mem_grants hmem)
    rw [hnew, if_pos rfl]
    split
    · rename_i hsame
      simp [hsame]
    · rename_i hother
      simp [hother, hnot]
  · rw [if_neg hnew, h.owners]
    split <;> simp [hnew]

protected theorem acquire (h : run.Faithful) (handle : Nat) :
    (run.perform (.acquire handle)).Faithful := by
  cases horigin : run.handles.get? handle with
  | none =>
      simp only [perform, horigin]
      exact h
  | some origin =>
      have hlogged : origin? handle run.past = some origin := (h.handles handle).symm.trans horigin
      obtain ⟨book, hbook, hfollows⟩ := h.book_of_handle horigin
      rcases Nat.lt_or_ge book.limiter.count book.limiter.limit with hroom | hfull
      · rw [h.perform_acquire_of_room horigin hbook hroom]
        refine ⟨h.handles, h.owners_insert hlogged, ?_, ?_, ?_,
          h.numbered_cons (Nat.lt_succ_self _)⟩
        · intro other limit hmem
          exact h.made_insert (created_of_mem_cons hmem (by simp)) _
        · intro other limit hmem
          exact h.roots other limit (created_of_mem_cons hmem (by simp))
        · refine h.follows_insert (hfollows.granted hlogged h.numbered hroom) fun other hother => ?_
          exact Option.some.inj (hother.symm.trans hlogged)
      · rw [perform_acquire_of_full horigin hbook hfull]
        refine ⟨h.handles, h.owners, ?_, ?_, h.follows_keep fun other => id, ?_⟩
        · intro other limit hmem
          exact h.made other limit (created_of_mem_cons hmem (by simp))
        · intro other limit hmem
          exact h.roots other limit (created_of_mem_cons hmem (by simp))
        · exact List.forall_mem_cons.mpr ⟨lt_of_origin? h.numbered hlogged, h.numbered⟩

/-- A lease that is released or dropped changes nothing but the limiter that granted it. -/
theorem giveBack (h : run.Faithful) (howner : run.owners.get? lease = some origin)
    {give : LeaseBook Nat → LeaseBook Nat} (hnumber : event.number = lease)
    (hnew : ∀ handle limit, event ≠ .created handle limit)
    (hgrants : ∀ other, grants other (event :: run.past) = grants other run.past)
    (hhandles : ∀ other, origin? other (event :: run.past) = origin? other run.past)
    (htouches : ∀ other, event.Touches other run.past → lease ∈ grants other run.past)
    (hgive : ∀ book : LeaseBook Nat, book.Follows origin run.past →
      (give book).Follows origin (event :: run.past)) :
    Faithful { run with books := run.books.update origin give, past := event :: run.past } := by
  have hmem := (h.owners lease origin).mp howner
  obtain ⟨-, limit, hcreated⟩ := granted_of_mem_grants hmem
  obtain ⟨book, hbook⟩ := h.made origin limit hcreated
  have hupdate : run.books.update origin give = run.books.insert origin (give book) := by
    rw [Table.update, hbook]
  rw [hupdate]
  refine ⟨?_, ?_, ?_, ?_, ?_, ?_⟩
  · intro other
    exact (h.handles other).trans (hhandles other).symm
  · intro other otherOrigin
    rw [hgrants]
    exact h.owners other otherOrigin
  · intro other otherLimit hmade
    exact h.made_insert (created_of_mem_cons hmade hnew) _
  · intro other otherLimit hmade
    exact h.roots other otherLimit (created_of_mem_cons hmade hnew)
  · exact h.follows_insert (hgive book (h.follows origin book hbook)) fun other hother =>
      h.origin_unique hmem (htouches other hother)
  · exact List.forall_mem_cons.mpr ⟨hnumber ▸ h.lt_of_mem_grants hmem, h.numbered⟩

protected theorem release (h : run.Faithful) (lease : Nat) :
    (run.perform (.release lease)).Faithful := by
  simp only [perform]
  cases howner : run.owners.get? lease with
  | none => exact h
  | some origin =>
      exact h.giveBack howner rfl (by simp) (fun _ => rfl) (fun _ => rfl) (fun _ => id)
        fun book hbook => hbook.released lease

protected theorem drop (h : run.Faithful) (lease : Nat) :
    (run.perform (.drop lease)).Faithful := by
  simp only [perform]
  cases howner : run.owners.get? lease with
  | none => exact h
  | some origin =>
      exact h.giveBack howner rfl (by simp) (fun _ => rfl) (fun _ => rfl) (fun _ => id)
        fun book hbook => hbook.dropped lease

protected theorem perform (h : run.Faithful) (step : LeaseStep) : (run.perform step).Faithful := by
  cases step with
  | create limit => exact h.create limit
  | clone handle => exact h.clone handle
  | acquire handle => exact h.acquire handle
  | release lease => exact h.release lease
  | drop lease => exact h.drop lease

/-! ### Whole runs -/

protected theorem after (steps : List LeaseStep) : (LeaseRun.after steps).Faithful := by
  induction steps using List.reverseRecOn with
  | nil => exact initial
  | append_singleton steps step ih =>
      rw [LeaseRun.after, List.foldl_append]
      exact Faithful.perform ih step

end Faithful

end LeaseRun

/-! ## Every lease counts once -/

theorem InFlight.acquire_eq_error_iff {limiter : InFlight} {error : Saturated} :
    limiter.acquire = .error error ↔
      limiter.limit ≤ limiter.count ∧ error = ⟨limiter.limit⟩ := by
  unfold acquire
  split
  · rename_i hfull
    simp [hfull, eq_comm]
  · rename_i hroom
    simp [hroom]

/-- A lease that gives its slot back takes one from the count, which is then positive. -/
theorem LeaseBook.Follows.count_release (h : book.Follows origin past) {kept : Lease}
    (hkept : book.leases.get? lease = some kept) :
    ((kept.release book.limiter).2.count : Int) =
      book.limiter.count - if kept.released then 0 else 1 := by
  obtain ⟨released⟩ := kept
  cases released with
  | true => simp [Lease.release]
  | false =>
      have hout : 0 < book.limiter.count :=
        h.count ▸ List.length_pos_of_mem (h.unreleased_iff.mp hkept)
      have hless : ((Lease.mk false).release book.limiter).2.count = book.limiter.count - 1 := rfl
      rw [hless, if_neg Bool.false_ne_true]
      omega

/-- **Every lease counts once.**  Through a handle that was made with some limit, and through each
of its clones, the same count is seen: the number of leases that were granted through any of them
and neither released nor dropped since.  It is at most the limit, which is one at least.  Leases
give back one at a time and never more than is counted.  A lease is refused exactly if as many
are out as the limit admits, and nothing changes then. -/
theorem LeaseRun.lease_count_exact (steps : List LeaseStep)
    (hmade : .created origin limit ∈ (after steps).past) :
    let run := after steps
    let out := (outstanding origin run.past).length
    origin? origin run.past = some origin ∧
    ∀ handle, origin? handle run.past = some origin →
      ∃ book, run.book? handle = some book ∧
        book.limiter.limit = max 1 limit ∧ book.limiter.count = out ∧ out ≤ max 1 limit ∧
        (∀ lease kept, book.leases.get? lease = some kept →
          ((kept.release book.limiter).2.count : Int) =
            book.limiter.count - if kept.released then 0 else 1) ∧
        (∀ error, book.limiter.acquire = .error error ↔
          out = max 1 limit ∧ error = ⟨max 1 limit⟩) ∧
        (out = max 1 limit → run.perform (.acquire handle) =
          { run with past := .refused handle ⟨max 1 limit⟩ :: run.past }) ∧
        (out ≠ max 1 limit →
          (run.perform (.acquire handle)).past = .granted run.next handle :: run.past) := by
  intro run out
  have hfaithful : run.Faithful := .after steps
  refine ⟨(hfaithful.handles origin).symm.trans (hfaithful.roots origin limit hmade), ?_⟩
  intro handle hclone
  have horigin : run.handles.get? handle = some origin := (hfaithful.handles handle).trans hclone
  obtain ⟨book, hbook, hfollows⟩ := hfaithful.book_of_handle horigin
  have hlimit : book.limiter.limit = max 1 limit := hfollows.limit limit hmade
  have hcount : book.limiter.count = out := hfollows.count
  have hbounded : out ≤ max 1 limit := hcount ▸ hlimit ▸ hfollows.bounded
  have hfull : book.limiter.limit ≤ book.limiter.count ↔ out = max 1 limit := by
    rw [hlimit, hcount]
    exact ⟨fun hle => Nat.le_antisymm hbounded hle, fun heq => Nat.le_of_eq heq.symm⟩
  refine ⟨book, ?_, hlimit, hcount, hbounded, fun lease kept => hfollows.count_release, ?_, ?_, ?_⟩
  · rw [book?, horigin, Option.bind_some, hbook]
  · intro error
    rw [InFlight.acquire_eq_error_iff, hfull, hlimit]
  · intro hout
    rw [Faithful.perform_acquire_of_full horigin hbook (hfull.mpr hout), hlimit]
  · intro hout
    have hroom : book.limiter.count < book.limiter.limit := Nat.not_le.mp (mt hfull.mp hout)
    rw [hfaithful.perform_acquire_of_room horigin hbook hroom]

/-- A limit of zero admits one lease, however often the first one was given back. -/
theorem LeaseRun.lease_count_released_twice :
    let run := after [.create 0, .clone 0, .acquire 1, .acquire 0, .release 2, .release 2, .drop 2,
      .acquire 0]
    .created 0 0 ∈ run.past ∧ origin? 1 run.past = some 0 ∧
      ∃ book, run.book? 1 = some book ∧ book.limiter.count = 1 ∧
        run.perform (.acquire 1) = { run with past := .refused 1 ⟨1⟩ :: run.past } := by
  intro run
  have hmade : .created 0 0 ∈ run.past := by decide
  have hclone : origin? 1 run.past = some 0 := by decide
  have hone : (outstanding 0 run.past).length = 1 := by decide
  obtain ⟨-, hclones⟩ := lease_count_exact _ hmade
  obtain ⟨book, hbook, -, hcount, -, -, -, hrefused, -⟩ := hclones 1 hclone
  exact ⟨hmade, hclone, book, hbook, hcount.trans hone, hrefused hone⟩

end GameGateway
