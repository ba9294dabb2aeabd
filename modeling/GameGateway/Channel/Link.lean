import GameGateway.Bytes
import GameGateway.Channel.Basic
import GameGateway.Table

/-!
# Links

A link is one end of a bounded queue of byte strings; whoever holds the other end
receives them in order.  Both ends can be given up.  A link whose own end is given
up is dead: who only knows its number finds nothing any more, while what it holds
can still be received.
-/

namespace GameGateway

/-- A bounded queue with two ends. -/
structure Link where
  capacity : Nat
  /-- What has been sent and not yet received, oldest first. -/
  queue : List Bytes := []
  alive : Bool := true
  receiverAlive : Bool := true
deriving DecidableEq

/-- All links that were ever opened. -/
structure LinkBook where
  links : Table ConnectionId Link
  nextNumber : Nat

namespace LinkBook

/-- A book without links; numbers start at one. -/
def empty : LinkBook := ⟨.empty, 1⟩

/-- Opens a link; its capacity is at least one. -/
def create (book : LinkBook) (capacity : Nat) : ConnectionId × LinkBook :=
  (⟨book.nextNumber⟩,
    ⟨book.links.insert ⟨book.nextNumber⟩ { capacity := max 1 capacity }, book.nextNumber + 1⟩)

/-- Can the link still be used by those who know its number? -/
def isAlive (book : LinkBook) (id : ConnectionId) : Bool :=
  ((book.links.get? id).map Link.alive).getD false

/-- Gives up the sending end of a link. -/
def dropLink (book : LinkBook) (id : ConnectionId) : LinkBook :=
  { book with links := book.links.update id fun link => { link with alive := false } }

/-- Gives up the receiving end of a link, with all that is in the queue. -/
def dropReceiver (book : LinkBook) (id : ConnectionId) : LinkBook :=
  { book with links := book.links.update id fun link =>
      { link with receiverAlive := false, queue := [] } }

/-- Sends bytes on a live link. -/
def send (book : LinkBook) (id : ConnectionId) (bytes : Bytes) :
    Except ChannelError Unit × LinkBook :=
  match book.links.get? id with
  | none => (.error (.linkClosed id), book)
  | some link =>
      if !link.receiverAlive then (.error (.linkClosed id), book)
      else if link.capacity ≤ link.queue.length then (.error (.backpressure id), book)
      else (.ok (), { book with
        links := book.links.insert id { link with queue := link.queue ++ [bytes] } })

/-- Receives the oldest bytes of a link, if there are any. -/
def receive (book : LinkBook) (id : ConnectionId) : Option Bytes × LinkBook :=
  match book.links.get? id with
  | none => (none, book)
  | some link =>
      match link.queue with
      | [] => (none, book)
      | bytes :: rest => (some bytes, { book with
          links := book.links.insert id { link with queue := rest } })

end LinkBook

end GameGateway
