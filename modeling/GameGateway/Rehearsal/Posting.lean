import GameGateway.Event.Activity
import GameGateway.Json.Value

/-!
# Rehearsing the event bus

A script for an observer becomes an activity.  The events of this rehearsal carry a
log, into which every observer that gets them writes, a mark that says whether they
are cancelled, and how deep the posting is nested.
-/

namespace GameGateway.Posting

/-- The kinds of events: only one can be cancelled. -/
inductive Kind where
  | plain
  | cancellable
deriving DecidableEq

/-- An event. -/
structure Mail where
  log : List String := []
  cancelled : Bool := false
  depth : Nat := 0

/-- The subscriptions under the names of their observers, latest first. -/
abbrev Names := List (String × Subscription Kind)

/-- An observer. -/
abbrev Observer := Activity Kind Mail Names

/-- The bus with the names of its observers. -/
abbrev Stage := Activity.Stage Kind Mail Names

/-- How deep observers post; the outermost event has depth zero. -/
def maxDepth : Nat := 2

/-- The kind of an event by its name. -/
def Kind.ofName (name : String) : Kind := if name = "canc" then .cancellable else .plain

/-- A priority by its name; the usual one if there is none of that name. -/
def priorityOfName : String → Priority
  | "lowest" => .lowest
  | "low" => .low
  | "high" => .high
  | "highest" => .highest
  | "monitor" => .monitor
  | _ => .normal

/-- How a script wants its observer to be called. -/
def optionsOf (json : Json) : ObserverOptions :=
  ⟨priorityOfName (json.text "priority"), json.flag "receive_cancelled"⟩

/-- Is the event cancelled? -/
def isCancelled : Kind → Mail → Bool
  | .plain, _ => false
  | .cancellable, mail => mail.cancelled

/-- Writes a line into the log of an event. -/
def say (line : String) (mail : Mail) : Mail := { mail with log := mail.log ++ [line] }

/-- How a log tells whether an observer was taken off the bus. -/
def removedText : Option Bool → String
  | none => "None"
  | some true => "Some(true)"
  | some false => "Some(false)"

/-- Takes the observer of a name off the bus. -/
def unregisterDeed (name other : String) (next : Observer) : Observer :=
  let finish (removed : Option Bool) : Observer :=
    .alter (say s!"{name}:unregister:{other}={removedText removed}") next
  .consult fun names =>
    match names.lookup other with
    | none => finish none
    | some subscription => .unregister subscription fun removed => finish (some removed)

/-- Posts a new event, unless the one at hand is nested as deep as may be. -/
def postDeed (name : String) (kind : Kind) (next : Observer) : Observer :=
  .inspect fun mail =>
    if maxDepth ≤ mail.depth then next
    else
      .post kind { depth := mail.depth + 1 } fun handed =>
        let inner := String.intercalate "," handed.log
        .alter (say s!"{name}:posted[{inner}]") next

mutual

/-- The observer that a script describes; `fuel` bounds its length and its nesting. -/
def observerWithin (fuel : Nat) (name : String) (deeds : List Json) : Observer :=
  match fuel with
  | 0 => .finish .done
  | fuel + 1 => .alter (say name) (deedsWithin fuel name deeds)

/-- The deeds of an observer, first to last. -/
def deedsWithin (fuel : Nat) (name : String) (deeds : List Json) : Observer :=
  match fuel, deeds with
  | 0, _ => .finish .done
  | _, [] => .finish .done
  | fuel + 1, deed :: rest =>
      let next := deedsWithin fuel name rest
      match deed with
      | .string (some "cancel") => .alter (fun mail => { mail with cancelled := true }) next
      | .string (some "uncancel") => .alter (fun mail => { mail with cancelled := false }) next
      | .string (some "fail") => .finish .failed
      | .string _ => .finish .panicked
      | _ =>
          if deed.has "register" then
            let script := deed.member "register"
            let added := script.text "name"
            .register (.ofName (script.text "event")) (optionsOf script)
              (observerWithin fuel added (script.list "actions"))
              fun subscription => .note (fun names => (added, subscription) :: names) next
          else if deed.has "unregister" then unregisterDeed name (deed.text "unregister") next
          else postDeed name (.ofName (deed.text "post")) next

end

mutual

/-- Number of values in a value, itself included. -/
def weight : Json → Nat
  | .array items => weights items + 1
  | .object members => memberWeights members + 1
  | _ => 1

/-- Number of values in a list of values. -/
def weights : List Json → Nat
  | [] => 0
  | json :: rest => weight json + weights rest

/-- Number of values in the members of an object. -/
def memberWeights : List (Option String × Json) → Nat
  | [] => 0
  | (_, json) :: rest => weight json + memberWeights rest

end

/-- The observer that a script describes. -/
def observerOf (json : Json) : Observer :=
  observerWithin (2 * weight json) (json.text "name") (json.list "actions")

/-- Registers the observer that a script describes, and keeps its subscription. -/
def register (json : Json) (stage : Stage) : Stage :=
  let (subscription, bus) :=
    stage.1.register (.ofName (json.text "event")) (optionsOf json) (observerOf json)
  (bus, (json.text "name", subscription) :: stage.2)

/-- Takes the observer of a name off the bus; the answer is whether it was there, if one
was ever registered under that name. -/
def unregister (name : String) (stage : Stage) : Option Bool × Stage :=
  match stage.2.lookup name with
  | none => (none, stage)
  | some subscription =>
      let (removed, bus) := stage.1.unregister subscription
      (some removed, bus, stage.2)

/-- Posts an event. -/
def post (kind : Kind) (mail : Mail) (stage : Stage) : Mail × Stage :=
  Activity.posting isCancelled (maxDepth + 2) kind mail stage

end GameGateway.Posting
