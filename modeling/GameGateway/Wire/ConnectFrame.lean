import GameGateway.Wire.VarInt
import GameGateway.Wire.Reader

/-!
# Connect frames

The first frame of a client, which the proxy decodes, gives a token and writes
again for the backend it has chosen.  Two numbers, the client's version, type and
language come first; then one byte of flags says which of five optional parts
follow.  Numbers stand least significant byte first, texts and blobs behind a
variable-length number.

Every text and blob has a limit of its own and the frame as a whole has one.  Both
directions apply the same limits.
-/

namespace GameGateway

/-- The longest texts, blobs and frames that are written and read, in bytes. -/
structure ProtocolLimits where
  clientVersion : Nat := 64
  language : Nat := 128
  identityToken : Nat := 8192
  username : Nat := 16
  referralData : Nat := 4096
  host : Nat := 256
  frame : Nat := 38161
deriving DecidableEq

/-- A host with the number of the service on it. -/
structure HostAddress where
  host : String
  number : UInt16
deriving DecidableEq

/-- Host and number with a colon between them. -/
def HostAddress.text (address : HostAddress) : String :=
  address.host ++ ":" ++ toString address.number.toNat

/-- The first frame of a client. -/
structure ConnectFrame where
  protocolCrc : UInt32 := 0
  protocolBuild : UInt32 := 0
  clientVersion : String := ""
  clientType : UInt8 := 0
  language : String := ""
  identityToken : Option String := none
  playerId : Option Uuid := none
  username : Option String := none
  /-- What a proxy, or a client on its way to another backend, has to show. -/
  referralData : Option Bytes := none
  referralSource : Option HostAddress := none
deriving DecidableEq

namespace ConnectFrame

/-- The frame with a referral from the given proxy. -/
def withReferral (frame : ConnectFrame) (data : Bytes) (source : HostAddress) : ConnectFrame :=
  { frame with referralData := some data, referralSource := some source }

/-- Refuses a field that is longer than its limit. -/
def checkLength (field : String) (length max : Nat) : Except WireError Unit :=
  if max < length then .error (.fieldTooLong field length max) else .ok ()

/-- Refuses an optional field that is given and longer than its limit. -/
def checkOptional (field : String) (length : Option Nat) (max : Nat) : Except WireError Unit :=
  match length with
  | none => .ok ()
  | some length => checkLength field length max

/-- Refuses a frame with a field over its limit; the first such field is named. -/
def checkFields (limits : ProtocolLimits) (frame : ConnectFrame) : Except WireError Unit := do
  checkLength "client_version" (Utf8.size frame.clientVersion) limits.clientVersion
  checkLength "language" (Utf8.size frame.language) limits.language
  checkOptional "identity_token" (frame.identityToken.map Utf8.size) limits.identityToken
  checkOptional "username" (frame.username.map Utf8.size) limits.username
  checkOptional "referral_data" (frame.referralData.map List.length) limits.referralData
  checkOptional "referral_host" (frame.referralSource.map fun source => Utf8.size source.host)
    limits.host

/-- The flag of an optional part. -/
def flag {α : Type} (bit : UInt8) (part : Option α) : UInt8 :=
  if part.isSome then bit else 0

/-- The byte that says which optional parts follow. -/
def presence (frame : ConnectFrame) : UInt8 :=
  flag 0x01 frame.identityToken ||| flag 0x02 frame.playerId ||| flag 0x04 frame.username |||
    flag 0x08 frame.referralData ||| flag 0x10 frame.referralSource

/-- The bytes of an optional part: none if it is absent. -/
def writeOptional {α : Type} (write : α → Bytes) : Option α → Bytes
  | none => []
  | some part => write part

/-- Number and host of a referral. -/
def writeSource (source : HostAddress) : Bytes :=
  Bytes.ofUInt16 source.number ++ VarInt.writeText source.host

/-- The bytes of a frame, whatever its size. -/
def write (frame : ConnectFrame) : Bytes :=
  Bytes.ofUInt32 frame.protocolCrc ++ Bytes.ofUInt32 frame.protocolBuild ++
    VarInt.writeText frame.clientVersion ++ [frame.clientType] ++
    VarInt.writeText frame.language ++ [frame.presence] ++
    writeOptional VarInt.writeText frame.identityToken ++
    writeOptional Uuid.bytes frame.playerId ++
    writeOptional VarInt.writeText frame.username ++
    writeOptional VarInt.writeBlob frame.referralData ++
    writeOptional writeSource frame.referralSource

/-- The bytes of a frame within the limits. -/
def encode (limits : ProtocolLimits) (frame : ConnectFrame) : Except WireError Bytes := do
  checkFields limits frame
  let bytes := frame.write
  if limits.frame < bytes.length then throw (.frameTooLarge bytes.length limits.frame)
  return bytes

/-- Reads an optional part if its flag is set. -/
def readOptional {α : Type} (presence bit : UInt8) (reader : Reader α) : Reader (Option α) :=
  if presence &&& bit ≠ 0 then some <$> reader else pure none

/-- Number and host of a referral. -/
def readSource (limits : ProtocolLimits) : Reader HostAddress := do
  let number ← Reader.uint16
  let host ← VarInt.text limits.host
  return ⟨host, number⟩

/-- Takes a frame off the front. -/
def read (limits : ProtocolLimits) : Reader ConnectFrame := do
  let protocolCrc ← Reader.uint32
  let protocolBuild ← Reader.uint32
  let clientVersion ← VarInt.text limits.clientVersion
  let clientType ← Reader.byte
  let language ← VarInt.text limits.language
  let presence ← Reader.byte
  Reader.require (presence < 0x20)
  let identityToken ← readOptional presence 0x01 (VarInt.text limits.identityToken)
  let playerId ← readOptional presence 0x02 Reader.uuid
  let username ← readOptional presence 0x04 (VarInt.text limits.username)
  let referralData ← readOptional presence 0x08 (VarInt.blob limits.referralData)
  let referralSource ← readOptional presence 0x10 (readSource limits)
  return ⟨protocolCrc, protocolBuild, clientVersion, clientType, language, identityToken,
    playerId, username, referralData, referralSource⟩

/-- The frame that the bytes spell under the limits. -/
def decode? (limits : ProtocolLimits) (bytes : Bytes) : Option ConnectFrame :=
  if limits.frame < bytes.length then none else (read limits).whole bytes

end ConnectFrame

end GameGateway
