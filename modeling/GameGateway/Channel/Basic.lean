import GameGateway.Text.Quoted
import GameGateway.Text.Utf8
import GameGateway.Wire.Reader

/-!
# Channels and what can go wrong on them

Bytes travel between the sides of a gateway on links and on named channels.  Here are the
causes for which they do not arrive, and the rule for names.
-/

namespace GameGateway

/-! ## What can go wrong on the way

The causes for which bytes do not get from one side to another. -/

/-- The number of a connection. -/
structure ConnectionId where
  number : Nat
deriving DecidableEq

/-- The name of a connection. -/
def ConnectionId.text (id : ConnectionId) : String := s!"conn-{id.number}"

/-- Why bytes cannot be handed on. -/
inductive ChannelError where
  /-- Nobody receives what is sent on the link. -/
  | linkClosed (link : ConnectionId)
  /-- The link holds as much as it may. -/
  | backpressure (link : ConnectionId)
  | invalidChannel (channel : String)
  /-- No peer is known that could receive the message. -/
  | noPeer
  | encode (error : WireError)
deriving DecidableEq

/-- The sentence shown to people; `nameOf` says how connections are named. -/
def ChannelError.message (nameOf : ConnectionId → String) : ChannelError → String
  | linkClosed link => s!"link {nameOf link} closed"
  | backpressure link => s!"link {nameOf link} is not keeping up"
  | invalidChannel channel => s!"invalid channel id {Text.quote channel}"
  | noPeer => "no reachable peer"
  | encode error => error.message

/-! ## Names of channels

A channel name has between one and 64 bytes: ASCII letters and digits, the
underscore, the point, the colon and the hyphen. -/

namespace ChannelName

/-- The longest name, in bytes. -/
def maxLength : Nat := 64

/-- May the character stand in a name? -/
def isAdmitted (c : Char) : Bool :=
  c.isAlphanum || c = '_' || c = '.' || c = ':' || c = '-'

/-- Is the text a channel name? -/
def isValid (name : String) : Bool :=
  name ≠ "" && Utf8.size name ≤ maxLength && name.toList.all isAdmitted

/-- Refuses a text that is no channel name. -/
def check (name : String) : Except ChannelError Unit :=
  if isValid name then .ok () else .error (.invalidChannel name)

end ChannelName

end GameGateway
