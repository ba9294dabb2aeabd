import GameGateway.Digest
import GameGateway.Text.Base64Url
import GameGateway.Text.CharSet
import GameGateway.Text.Decimal
import GameGateway.Text.Fields
import GameGateway.Text.Utf8
import GameGateway.Token.Error
import GameGateway.Uuid

/-!
# Claims

The claims of a token are texts with a bar between each two.  The rules on claims
keep the bar out of every text, so that the payload of a token reads back.
-/

namespace GameGateway

namespace Claims

/-- What stands between two claims. -/
def delimiter : Char := '|'

/-- The only version of claims there is. -/
def currentVersion : UInt32 := 1

/-- Refuses a claim with the delimiter in it. -/
def checkOptional (field : String) (value : Option String) : Except TokenError Unit :=
  match value with
  | none => .ok ()
  | some text =>
      if delimiter ∈ text.toList then .error (.invalidClaim field .delimiter) else .ok ()

/-- Refuses a blank claim and one with the delimiter in it. -/
def checkId (field value : String) : Except TokenError Unit :=
  if Text.isBlank value then .error (.invalidClaim field .blank)
  else checkOptional field (some value)

/-- Refuses a token from before the epoch and one that ends before it begins. -/
def checkTimes (issuedAt expiresAt : Millis) : Except TokenError Unit :=
  if issuedAt < 0 then .error (.invalidClaim "issued_at" .negative)
  else if expiresAt < issuedAt then .error (.invalidClaim "expires_at" .precedesIssue)
  else .ok ()

/-- The payload made of claims. -/
def join (fields : List (List Char)) : Bytes :=
  Utf8.encode (String.ofList (Fields.join delimiter fields))

/-- The claims of a payload. -/
def split? (payload : Bytes) : Option (List (List Char)) :=
  (Utf8.decode payload).map fun text => Fields.split delimiter text.toList

/-- An optional claim: absent if nothing is written. -/
def optional (field : List Char) : Option String :=
  if field.isEmpty then none else some (String.ofList field)

/-- What is written for an optional claim. -/
def ofOptional (value : Option String) : List Char :=
  (value.getD "").toList

end Claims

/-! ## Certificate fingerprints

The fingerprint of a certificate is the digest of its bytes in base64.  People
paste fingerprints with blanks and padding around them; `canonicalize` brings such
a text into the one form in which fingerprints are compared. -/

namespace Fingerprint

/-- The fingerprint of a certificate. -/
def ofCertificate (certificate : Bytes) : String :=
  Base64Url.encode (Sha256.digest certificate).bytes

/-- The characters without the equals signs at their end. -/
def withoutPadding (cs : List Char) : List Char :=
  (cs.reverse.dropWhile (· = '=')).reverse

/-- The fingerprint that a text denotes, in its one form. -/
def canonicalize (text : String) : Option String := do
  let bytes ← Base64Url.decodeChars
    (withoutPadding (Text.trimWhere Text.isBlankChar text.toList))
  if bytes.length = 32 then some (Base64Url.encode bytes) else none

end Fingerprint

end GameGateway
