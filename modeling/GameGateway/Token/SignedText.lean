import GameGateway.Digest
import GameGateway.Text.Base64Url
import GameGateway.Text.Fields
import GameGateway.Token.Error

/-!
# Signed texts

A token travels as a text of three parts with dots between them: a word for its
kind, its payload, and the payload's tag under a secret, both in base64.  The word
is not covered by the tag.
-/

namespace GameGateway

/-- A payload with the signature that came with it. -/
structure SignedPayload where
  payload : Bytes
  signature : Bytes
deriving DecidableEq

namespace SignedPayload

/-- The text of a signed payload behind a word. -/
def shown (word : String) (signed : SignedPayload) : String :=
  String.ofList (Fields.join '.' [word.toList, Base64Url.encodeChars signed.payload,
    Base64Url.encodeChars signed.signature])

/-- The text of a signed payload of a kind. -/
def text (kind : TokenKind) (signed : SignedPayload) : String := signed.shown kind.tag

/-- A payload signed under a secret. -/
def sign (secret payload : Bytes) : SignedPayload :=
  ⟨payload, (Hmac.sign secret payload).bytes⟩

/-- The signed payload that a text spells behind a word. -/
def readBehind? (word text : String) : Except TokenRejection SignedPayload :=
  match Fields.split '.' text.toList with
  | [head, payloadPart, signaturePart] =>
      if head ≠ word.toList then .error (.shape .tag)
      else
        match Base64Url.decodeChars payloadPart with
        | none => .error (.shape .payload)
        | some [] => .error (.shape .emptyPayload)
        | some payload =>
            match Base64Url.decodeChars signaturePart with
            | none => .error (.shape .signature)
            | some signature => .ok ⟨payload, signature⟩
  | _ => .error (.shape .parts)

/-- The signed payload that a text of a kind spells. -/
def ofText? (kind : TokenKind) (text : String) : Except TokenRejection SignedPayload :=
  readBehind? kind.tag text

/-- Has one of the secrets signed the payload? -/
def signedByAny (signed : SignedPayload) (secrets : List Bytes) : Bool :=
  secrets.any fun secret => Hmac.verify secret signed.payload signed.signature

end SignedPayload

end GameGateway
