import GameGateway.Text.Quoted

/-!
# Decisions of observers

Before a backend is chosen, observers may suggest one or deny the connection.  The
first word counts; whatever is said after it is refused with one of the errors for which
no backend is chosen.
-/

namespace GameGateway

/-- Why a connection is not routed. -/
inductive RoutingError where
  | denied (reason : String)
  | unknownOverride (backend : String)
  | missingDefault (backend : String)
  | decisionFinalized
  | overloaded (limit : Nat)
deriving DecidableEq

/-- The sentence shown to people. -/
def RoutingError.message : RoutingError → String
  | denied reason => s!"routing denied: {reason}"
  | unknownOverride backend => s!"unknown backend override {Text.quote backend}"
  | missingDefault backend => s!"default backend {Text.quote backend} is not registered"
  | decisionFinalized => "routing decision already finalized"
  | overloaded limit => s!"routing overloaded ({limit} decisions in flight)"

/-- What observers have said so far.  That a suggestion and a denial exclude each other holds by
the type; observers keep to it because the second word is refused (`suggest`, `deny`). -/
inductive RoutingDecision where
  | undecided
  | suggested (backend : String)
  | denied (reason : String)
deriving DecidableEq

namespace RoutingDecision

/-- Has something been said? -/
def isDecided (decision : RoutingDecision) : Bool := decision ≠ undecided

/-- Suggests a backend. -/
def suggest (decision : RoutingDecision) (backend : String) : Except RoutingError RoutingDecision :=
  if decision.isDecided then .error .decisionFinalized else .ok (suggested backend)

/-- Denies the connection. -/
def deny (decision : RoutingDecision) (reason : String) : Except RoutingError RoutingDecision :=
  if decision.isDecided then .error .decisionFinalized else .ok (denied reason)

/-- The backend that was suggested. -/
def suggestion? : RoutingDecision → Option String
  | suggested backend => some backend
  | _ => none

/-- The reason for which the connection was denied. -/
def denial? : RoutingDecision → Option String
  | denied reason => some reason
  | _ => none

end RoutingDecision

end GameGateway
