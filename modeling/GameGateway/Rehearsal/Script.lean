import GameGateway.Event.Bus
import GameGateway.Event.Kind
import GameGateway.Json.Value

/-!
# Scripted observers

In a rehearsal observers follow scripts: one deed after the other, until the script
ends or a deed ends it.  What an observer tells the decision it is asked for, and how
that was taken, is noted.
-/

namespace GameGateway

/-- One deed of an observer; `α` is what it can do besides speaking and failing. -/
inductive Deed (α : Type) where
  | fail
  | panic
  | suggest (backend : String)
  | deny (reason : String)
  | act (action : α)

/-- What an observer does, in order. -/
structure Script (α : Type) where
  name : String
  deeds : List (Deed α)

/-- A deed as it is described: `"fail"`, `"panic"`, an object that says what is suggested
or denied, or else whatever `read` makes of it. -/
def Deed.ofJson {α : Type} (read : Json → α) : Json → Deed α
  | .string (some "fail") => .fail
  | .string _ => .panic
  | deed =>
      if deed.has "suggest" then .suggest (deed.text "suggest")
      else if deed.has "deny" then .deny (deed.text "deny")
      else .act (read deed)

/-- A script as it is described: the name of its observer and its actions. -/
def Script.ofJson {α : Type} (read : Json → α) (json : Json) : Script α :=
  ⟨json.text "name", (json.list "actions").map (Deed.ofJson read)⟩

/-- The event with its decision changed, if it is one that asks for a decision. -/
def changeDecision (f : RoutingDecision → Except RoutingError RoutingDecision) :
    (kind : EventKind) → Event kind → Option (Except RoutingError (Event kind))
  | .routePreSelect, event =>
      some ((f event.decision).map fun decision => { event with decision := decision })
  | .playerConnected, _ => none
  | .playerAuthenticated, _ => none
  | .playerDisconnected, _ => none
  | .routePostSelect, _ => none
  | .tokenValidated, _ => none
  | .backendStatusChanged, _ => none
  | .transferCompleted, _ => none

namespace Script

variable {α σ : Type}

/-- Runs the deeds of an observer on an event.  `spoke` notes a word to the decision
and how it was taken, `act` carries out an action. -/
def runDeeds (kind : EventKind) (spoke : RoutingDecision → Except RoutingError Unit → σ → σ)
    (act : α → Event kind → σ → σ) :
    List (Deed α) → Event kind → σ → Completion × Event kind × σ
  | [], event, s => (.done, event, s)
  | .fail :: _, event, s => (.failed, event, s)
  | .panic :: _, event, s => (.panicked, event, s)
  | .suggest backend :: rest, event, s =>
      match changeDecision (fun decision => decision.suggest backend) kind event with
      | none => runDeeds kind spoke act rest event s
      | some (.ok event) =>
          runDeeds kind spoke act rest event (spoke (.suggested backend) (.ok ()) s)
      | some (.error e) => (.failed, event, spoke (.suggested backend) (.error e) s)
  | .deny reason :: rest, event, s =>
      match changeDecision (fun decision => decision.deny reason) kind event with
      | none => runDeeds kind spoke act rest event s
      | some (.ok event) => runDeeds kind spoke act rest event (spoke (.denied reason) (.ok ()) s)
      | some (.error e) => (.failed, event, spoke (.denied reason) (.error e) s)
  | .act action :: rest, event, s => runDeeds kind spoke act rest event (act action event s)

end Script

end GameGateway
