import GameGateway.Channel.Link

/-!
# Links under names

In a rehearsal links have names.  Whoever holds a name holds both ends of the link
until one of them is given up; a new link under the name gives up the old one first.
-/

namespace GameGateway

/-- Links with the names they were opened under. -/
structure NamedLinks where
  book : LinkBook := .empty
  /-- Every link that was ever opened, latest first. -/
  opened : List (String × ConnectionId) := []

namespace NamedLinks

/-- The link opened last under a name. -/
def id? (links : NamedLinks) (name : String) : Option ConnectionId := links.opened.lookup name

/-- The name a link was opened under. -/
def nameOf? (links : NamedLinks) (id : ConnectionId) : Option String :=
  (links.opened.find? fun entry => entry.2 = id).map Prod.fst

/-- The link under a name, while its own end is held. -/
def held? (links : NamedLinks) (name : String) : Option ConnectionId :=
  (links.id? name).filter links.book.isAlive

/-- The name of a link that is alive. -/
def aliveName? (links : NamedLinks) (link : Option ConnectionId) : Option String := do
  let id ← link
  if links.book.isAlive id then links.nameOf? id else none

/-- Is the receiving end of the link under a name held? -/
def isReceiving (links : NamedLinks) (name : String) : Bool :=
  match (links.id? name).bind links.book.links.get? with
  | some link => link.receiverAlive
  | none => false

/-- Gives up the own end of the link under a name; the answer is whether it was held. -/
def dropLink (links : NamedLinks) (name : String) : Bool × NamedLinks :=
  match links.held? name with
  | some id => (true, { links with book := links.book.dropLink id })
  | none => (false, links)

/-- Gives up the receiving end of the link under a name; the answer is whether it was
held. -/
def dropReceiver (links : NamedLinks) (name : String) : Bool × NamedLinks :=
  match links.id? name with
  | some id => (links.isReceiving name, { links with book := links.book.dropReceiver id })
  | none => (false, links)

/-- Opens a link under a name. -/
def create (links : NamedLinks) (name : String) (capacity : Nat) : NamedLinks :=
  let links := (links.dropLink name).2
  let links := (links.dropReceiver name).2
  let (id, book) := links.book.create capacity
  ⟨book, (name, id) :: links.opened⟩

/-- A link without a name whose own end has been given up. -/
def createDead (links : NamedLinks) : ConnectionId × NamedLinks :=
  let (id, book) := links.book.create 1
  (id, { links with book := book.dropLink id })

/-- Receives the oldest bytes on the link under a name. -/
def receive (links : NamedLinks) (name : String) : Option Bytes × NamedLinks :=
  match links.id? name with
  | some id =>
      let (bytes, book) := links.book.receive id
      (bytes, { links with book := book })
  | none => (none, links)

end NamedLinks

end GameGateway
