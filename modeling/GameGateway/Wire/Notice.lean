import GameGateway.Text.CharSet
import GameGateway.Wire.Code
import GameGateway.Wire.Reader

/-!
# What control messages say

The four payloads of control envelopes: a request to send a player to another
backend, the result of such a request, the verdict of a backend on a player's
token, and the status of a backend.  A payload that names a backend is refused in
both directions when the name is blank.
-/

namespace GameGateway

/-- Asks the backend of a player to send the player elsewhere. -/
structure TransferRequest where
  correlation : Uuid
  player : Uuid
  target : String
  /-- What the player has to show to the proxy on coming back. -/
  referral : Bytes
deriving DecidableEq

/-- How a requested transfer went. -/
structure TransferResult where
  correlation : Uuid
  status : TransferStatus
  reason : Option TransferFault
deriving DecidableEq

/-- What a backend made of a player's token. -/
structure ValidationNotice where
  player : Uuid
  backend : String
  outcome : ValidationOutcome
  reason : Option TokenFault
deriving DecidableEq

/-- The status of a backend. -/
structure StatusNotice where
  backend : String
  status : BackendStatus
deriving DecidableEq

namespace Notice

/-- The bytes of a payload that names a backend, unless the name is blank. -/
def named (field name : String) (bytes : Bytes) : Except WireError Bytes :=
  if Text.isBlank name then .error (.blankField field) else .ok bytes

/-- Takes a name that is not blank off the front. -/
def readName : Reader String := do
  let name ← Reader.sizedText
  Reader.require (!Text.isBlank name)
  return name

/-- A word of a vocabulary. -/
def readCode (α : Type) [WireCode α] : Reader α := do
  let code ← Reader.byte
  Reader.lift (WireCode.ofCode? code)

/-- An optional word of a vocabulary. -/
def readOptionalCode (α : Type) [WireCode α] : Reader (Option α) := do
  let code ← Reader.byte
  Reader.lift (WireCode.ofOptionalCode? code)

end Notice

namespace TransferRequest

/-- The bytes of a request. -/
def write (request : TransferRequest) : Bytes :=
  request.correlation.bytes ++ request.player.bytes ++ Bytes.sized (Utf8.encode request.target) ++
    Bytes.sized request.referral

/-- The bytes of a request whose target is not blank. -/
def encode (request : TransferRequest) : Except WireError Bytes :=
  Notice.named "target_backend_id" request.target request.write

/-- Takes a request off the front. -/
def read : Reader TransferRequest := do
  let correlation ← Reader.uuid
  let player ← Reader.uuid
  let target ← Notice.readName
  let referral ← Reader.sizedBytes
  return ⟨correlation, player, target, referral⟩

/-- The request that the bytes spell. -/
def decode? (bytes : Bytes) : Option TransferRequest := read.whole bytes

end TransferRequest

namespace TransferResult

/-- A transfer that went through. -/
def ok (correlation : Uuid) : TransferResult := ⟨correlation, .ok, none⟩

/-- A transfer that did not go through. -/
def failed (correlation : Uuid) (reason : TransferFault) : TransferResult :=
  ⟨correlation, .failed, some reason⟩

/-- The bytes of a result. -/
def encode (result : TransferResult) : Bytes :=
  result.correlation.bytes ++ [WireCode.code result.status, WireCode.optionalCode result.reason]

/-- Takes a result off the front. -/
def read : Reader TransferResult := do
  let correlation ← Reader.uuid
  let status ← Notice.readCode TransferStatus
  let reason ← Notice.readOptionalCode TransferFault
  return ⟨correlation, status, reason⟩

/-- The result that the bytes spell. -/
def decode? (bytes : Bytes) : Option TransferResult := read.whole bytes

end TransferResult

namespace ValidationNotice

/-- The bytes of a notice. -/
def write (notice : ValidationNotice) : Bytes :=
  notice.player.bytes ++ Bytes.sized (Utf8.encode notice.backend) ++
    [WireCode.code notice.outcome, WireCode.optionalCode notice.reason]

/-- The bytes of a notice whose backend is not blank. -/
def encode (notice : ValidationNotice) : Except WireError Bytes :=
  Notice.named "backend_id" notice.backend notice.write

/-- Takes a notice off the front. -/
def read : Reader ValidationNotice := do
  let player ← Reader.uuid
  let backend ← Notice.readName
  let outcome ← Notice.readCode ValidationOutcome
  let reason ← Notice.readOptionalCode TokenFault
  return ⟨player, backend, outcome, reason⟩

/-- The notice that the bytes spell. -/
def decode? (bytes : Bytes) : Option ValidationNotice := read.whole bytes

end ValidationNotice

namespace StatusNotice

/-- The bytes of a notice. -/
def write (notice : StatusNotice) : Bytes :=
  Bytes.sized (Utf8.encode notice.backend) ++ [WireCode.code notice.status]

/-- The bytes of a notice whose backend is not blank. -/
def encode (notice : StatusNotice) : Except WireError Bytes :=
  Notice.named "backend_id" notice.backend notice.write

/-- Takes a notice off the front. -/
def read : Reader StatusNotice := do
  let backend ← Notice.readName
  let status ← Notice.readCode BackendStatus
  return ⟨backend, status⟩

/-- The notice that the bytes spell. -/
def decode? (bytes : Bytes) : Option StatusNotice := read.whole bytes

end StatusNotice

end GameGateway
