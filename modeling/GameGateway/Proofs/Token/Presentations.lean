import GameGateway.Proofs.Token.Checks
import GameGateway.Token.ProxyToken

/-!
# Presentations that are refused

An interceptor refuses a token in two ways: it is not good, or it is good and has been
used.  Uses are looked up and noted down for good tokens only, so what is not good leaves
no trace (`Interceptor.perform_of_refused`), and it is never called a used one
(`Handshake.fault_ne_replayed`), so the two ways can be told apart by the answer.

A history without its refused presentations is therefore the same history
(`Interceptor.refused_presentations_invisible`), whatever happens to the clock and to the
accepted secrets in between.
-/

namespace GameGateway

/-! ## Words for tokens that are not good -/

theorem TokenCheck.fault_ne_replayed (check : TokenCheck) : check.fault ≠ .replayed := by
  cases check <;> exact nofun

namespace Handshake

variable {policy : TokenPolicy} {accepted : List Bytes} {now : Millis} {data : Option Bytes}
  {claimed : Option Uuid} {rejection : TokenRejection}

/-- What is not a good token is never said to be a used one. -/
theorem fault_ne_replayed (h : inspect policy accepted now data claimed = .error rejection) :
    rejection.fault ≠ .replayed := by
  unfold inspect at h
  dsimp only at h
  split at h
  · cases h
    exact nofun
  split at h
  · rcases bind_eq_error_iff.mp h with hvalidate | ⟨validated, -, hplayer⟩
    · obtain ⟨check, -, -, hfault⟩ := TokenPolicy.decidedBy_validate.told rejection hvalidate
      rw [hfault]
      exact check.fault_ne_replayed
    -- A good token is refused for the player only.
    split at hplayer
    · split at hplayer
      · cases hplayer
        exact nofun
      · cases hplayer
    · cases hplayer
  · cases h
    exact nofun

end Handshake

/-! ## Histories of an interceptor -/

/-- What takes the tokens that clients show, with the clock and the secrets at hand. -/
structure Interceptor where
  policy : TokenPolicy
  accepted : List Bytes
  clock : Millis
  used : ReplayWindow TokenUse

/-- What happens to an interceptor. -/
inductive InterceptorCall where
  | clock (now : Millis)
  | secrets (accepted : List Bytes)
  /-- A client shows something, perhaps in the name of a player. -/
  | presentation (data : Option Bytes) (claimed : Option Uuid)

/-- A call with the answer to it. -/
structure InterceptorEntry where
  call : InterceptorCall
  answer : Option (Except TokenRejection ValidatedToken)

/-- Does the entry tell of a token that is refused for another reason than its use? -/
def InterceptorEntry.refused (entry : InterceptorEntry) : Bool :=
  match entry.answer with
  | some (.error rejection) => rejection.fault ≠ .replayed
  | _ => false

namespace Interceptor

variable {i : Interceptor} {call : InterceptorCall} {data : Option Bytes} {claimed : Option Uuid}

def present (i : Interceptor) (data : Option Bytes) (claimed : Option Uuid) :
    Except TokenRejection ValidatedToken × ReplayWindow TokenUse :=
  Handshake.present i.policy i.accepted i.clock data claimed i.used

def perform (i : Interceptor) : InterceptorCall → Interceptor
  | .clock now => { i with clock := now }
  | .secrets accepted => { i with accepted }
  | .presentation data claimed => { i with used := (i.present data claimed).2 }

def entry (i : Interceptor) (call : InterceptorCall) : InterceptorEntry where
  call
  answer :=
    match call with
    | .presentation data claimed => some (i.present data claimed).1
    | _ => none

/-- What is called, with the answers to it. -/
def log (i : Interceptor) : List InterceptorCall → List InterceptorEntry
  | [] => []
  | call :: calls => i.entry call :: (i.perform call).log calls

/-- The interceptor after some calls. -/
def after (i : Interceptor) (calls : List InterceptorCall) : Interceptor := calls.foldl perform i

/-- The log without the presentations that are refused. -/
def settledLog (i : Interceptor) (calls : List InterceptorCall) : List InterceptorEntry :=
  (i.log calls).filter fun entry => !entry.refused

/-- The calls without the presentations that are refused. -/
def kept (i : Interceptor) (calls : List InterceptorCall) : List InterceptorCall :=
  (i.settledLog calls).map InterceptorEntry.call

/-! ## Refused presentations -/

/-- A presentation is refused exactly if it does not show a good token. -/
theorem refused_presentation_iff :
    (i.entry (.presentation data claimed)).refused = true ↔ ∃ rejection,
      Handshake.inspect i.policy i.accepted i.clock data claimed = .error rejection := by
  simp only [entry, InterceptorEntry.refused, present, Handshake.present]
  cases hfound : Handshake.inspect i.policy i.accepted i.clock data claimed with
  | error rejection => simpa using Handshake.fault_ne_replayed hfound
  | ok validated =>
      -- A good token is taken or called a used one.
      by_cases hfresh : (i.used.register i.clock validated.key).1 = true
      · simp [hfresh]
      · simp [hfresh, TokenRejection.fault]

/-- A refused presentation leaves the interceptor as it was. -/
theorem perform_of_refused (h : (i.entry call).refused = true) : i.perform call = i := by
  cases call with
  | clock now => cases h
  | secrets accepted => cases h
  | presentation data claimed =>
      obtain ⟨rejection, hfound⟩ := refused_presentation_iff.mp h
      rw [perform, present, Handshake.present, hfound]

theorem settledLog_cons_of_refused (h : (i.entry call).refused = true)
    (calls : List InterceptorCall) : i.settledLog (call :: calls) = i.settledLog calls := by
  rw [settledLog, log, perform_of_refused h]
  exact List.filter_cons_of_neg (by simp [h])

theorem settledLog_cons_of_not_refused (h : (i.entry call).refused = false)
    (calls : List InterceptorCall) :
    i.settledLog (call :: calls) = i.entry call :: (i.perform call).settledLog calls := by
  rw [settledLog, log]
  exact List.filter_cons_of_pos (by simp [h])

/-- **Refused presentations are invisible.**  Without the presentations that are refused for
another reason than the use of their token, every other call of a history is answered as it
was, and the interceptor is left in the same state. -/
theorem refused_presentations_invisible (i : Interceptor) (calls : List InterceptorCall) :
    i.log (i.kept calls) = i.settledLog calls ∧ i.after (i.kept calls) = i.after calls := by
  induction calls generalizing i with
  | nil => exact ⟨rfl, rfl⟩
  | cons call calls ih =>
      cases hrefused : (i.entry call).refused with
      | true =>
          obtain ⟨hlog, hafter⟩ := ih i
          have hkept : i.kept (call :: calls) = i.kept calls := by
            rw [kept, settledLog_cons_of_refused hrefused]
            rfl
          constructor
          · rw [hkept, settledLog_cons_of_refused hrefused]
            exact hlog
          · calc i.after (i.kept (call :: calls))
              _ = i.after calls := by rw [hkept, hafter]
              _ = (i.perform call).after calls := by rw [perform_of_refused hrefused]
      | false =>
          obtain ⟨hlog, hafter⟩ := ih (i.perform call)
          have hkept : i.kept (call :: calls) = call :: (i.perform call).kept calls := by
            rw [kept, settledLog_cons_of_not_refused hrefused]
            rfl
          constructor
          · rw [hkept, settledLog_cons_of_not_refused hrefused, log, hlog]
          · rw [hkept]
            exact hafter

end Interceptor

end GameGateway
