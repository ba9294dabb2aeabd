import GameGateway.Bytes
import GameGateway.Text.CharSet
import GameGateway.Text.Utf8
import GameGateway.Token.Error

/-!
# Secrets

Which secrets tokens are signed and accepted under, and which texts are strong enough to
be one.
-/

namespace GameGateway

/-! ## Signing secrets

Tokens are signed under the current secret and accepted under that one and the
previous ones.  Rotation makes the current secret a previous one; retiring ends
the previous ones all at once. -/

/-- The secret in use with those before it, latest first. -/
structure Secrets where
  current : Bytes
  previous : List Bytes := []
deriving DecidableEq

namespace Secrets

/-- The secrets under which tokens are accepted. -/
def accepted (secrets : Secrets) : List Bytes := secrets.current :: secrets.previous

/-- Signs under `next` from now on. -/
def rotate (secrets : Secrets) (next : Bytes) : Secrets := ⟨next, secrets.accepted⟩

/-- Accepts no secret but the current one from now on. -/
def retire (secrets : Secrets) : Secrets := ⟨secrets.current, []⟩

end Secrets

/-! ## Strength of secrets

A secret is refused when it is blank, when its letters and numbers spell one of a
few common placeholders in any case, and when it is shorter than 32 bytes. -/

namespace SecretStrength

/-- The shortest secret, in bytes. -/
def minLength : Nat := 32

/-- The words that no secret may consist of. -/
def commonWords : List String := ["changeme", "changemeplease", "password", "secret"]

/-- The word that no secret may begin with. -/
def placeholder : String := "changeme"

/-- The letters and numbers of a text, ASCII letters in lower case.  No other
character folds to a letter of one of the common words. -/
def letters (text : String) : List Char :=
  (text.toList.filter Text.isAlphanumeric).map Char.toLower

/-- Is the secret one that everybody would try? -/
def isCommon (secret : String) : Bool :=
  commonWords.any (fun word => letters secret = word.toList) ||
    placeholder.toList.isPrefixOf (letters secret)

/-- Refuses a weak secret; `field` says which secret it is. -/
def check (field secret : String) : Except TokenError Unit :=
  if Text.isBlank secret then .error (.weakSecret field .empty)
  else if isCommon secret then .error (.weakSecret field .common)
  else if Utf8.size secret < minLength then .error (.weakSecret field .short)
  else .ok ()

end SecretStrength

end GameGateway
