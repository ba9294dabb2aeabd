/-!
# One-byte codes

The closed vocabularies that travel as one byte.  Each has a code that is not
zero, which leaves zero for "no value", and a name for people.  `ofCode?` and
`code` are inverse to each other in every vocabulary (`ofCode?_eq_some_iff`).
-/

namespace GameGateway

/-- A closed vocabulary whose words travel as one byte. -/
class WireCode (α : Type) where
  /-- Every word of the vocabulary. -/
  all : List α
  code : α → UInt8
  name : α → String
  mem_all : ∀ a, a ∈ all
  code_injective : ∀ a b, code a = code b → a = b
  code_ne_zero : ∀ a, code a ≠ 0

namespace WireCode

variable {α : Type} [WireCode α]

/-- The word with the given code. -/
def ofCode? (c : UInt8) : Option α :=
  all.find? fun a => code a = c

theorem ofCode?_eq_some_iff {c : UInt8} {a : α} : ofCode? c = some a ↔ c = code a := by
  constructor
  · intro h
    have := List.find?_some h
    simpa using Eq.symm (by simpa using this)
  · rintro rfl
    have hsome : (all.find? fun b : α => code b = code a).isSome := by
      rw [List.find?_isSome]
      exact ⟨a, mem_all a, by simp⟩
    obtain ⟨b, hb⟩ := Option.isSome_iff_exists.mp hsome
    have hcode := List.find?_some hb
    rw [ofCode?, hb, code_injective b a (by simpa using hcode)]

/-- The byte of an optional word: zero if there is none. -/
def optionalCode : Option α → UInt8
  | none => 0
  | some a => code a

/-- The optional word of a byte; `none` if the byte is neither zero nor a code. -/
def ofOptionalCode? (c : UInt8) : Option (Option α) :=
  if c = 0 then some none else (ofCode? c).map some

theorem ofOptionalCode?_eq_some_iff {c : UInt8} {a : Option α} :
    ofOptionalCode? c = some a ↔ c = optionalCode a := by
  unfold ofOptionalCode?
  cases a with
  | none =>
      by_cases h : c = 0 <;> simp [h, optionalCode]
  | some a =>
      by_cases h : c = 0
      · subst h
        simpa [optionalCode] using (code_ne_zero a).symm
      · simp [h, optionalCode, ofCode?_eq_some_iff]

end WireCode

/-- What a control message says. -/
inductive MessageKind where
  | transferRequest
  | transferResult
  | tokenValidation
  | backendStatus
deriving DecidableEq

instance : WireCode MessageKind where
  all := [.transferRequest, .transferResult, .tokenValidation, .backendStatus]
  code
    | .transferRequest => 1
    | .transferResult => 2
    | .tokenValidation => 3
    | .backendStatus => 4
  name
    | .transferRequest => "TRANSFER_REQUEST"
    | .transferResult => "TRANSFER_RESULT"
    | .tokenValidation => "TOKEN_VALIDATION"
    | .backendStatus => "BACKEND_STATUS"
  mem_all := by intro a; cases a <;> simp
  code_injective := by intro a b; cases a <;> cases b <;> simp
  code_ne_zero := by intro a; cases a <;> simp

/-- Why a token is refused. -/
inductive TokenFault where
  | malformed
  | invalidSignature
  | expired
  | notYetValid
  | unsupportedVersion
  | targetMismatch
  | replayed
deriving DecidableEq

instance : WireCode TokenFault where
  all := [.malformed, .invalidSignature, .expired, .notYetValid, .unsupportedVersion,
    .targetMismatch, .replayed]
  code
    | .malformed => 1
    | .invalidSignature => 2
    | .expired => 3
    | .notYetValid => 4
    | .unsupportedVersion => 5
    | .targetMismatch => 6
    | .replayed => 7
  name
    | .malformed => "MALFORMED"
    | .invalidSignature => "INVALID_SIGNATURE"
    | .expired => "EXPIRED"
    | .notYetValid => "NOT_YET_VALID"
    | .unsupportedVersion => "UNSUPPORTED_VERSION"
    | .targetMismatch => "TARGET_MISMATCH"
    | .replayed => "REPLAYED"
  mem_all := by intro a; cases a <;> simp
  code_injective := by intro a b; cases a <;> cases b <;> simp
  code_ne_zero := by intro a; cases a <;> simp

/-- How a transfer ended. -/
inductive TransferStatus where
  | ok
  | failed
deriving DecidableEq

instance : WireCode TransferStatus where
  all := [.ok, .failed]
  code
    | .ok => 1
    | .failed => 2
  name
    | .ok => "OK"
    | .failed => "FAILED"
  mem_all := by intro a; cases a <;> simp
  code_injective := by intro a b; cases a <;> cases b <;> simp
  code_ne_zero := by intro a; cases a <;> simp

/-- Why a transfer failed. -/
inductive TransferFault where
  | backendNotFound
  | referralRejected
  | internalError
  | playerNotFound
deriving DecidableEq

instance : WireCode TransferFault where
  all := [.backendNotFound, .referralRejected, .internalError, .playerNotFound]
  code
    | .backendNotFound => 1
    | .referralRejected => 2
    | .internalError => 3
    | .playerNotFound => 4
  name
    | .backendNotFound => "BACKEND_NOT_FOUND"
    | .referralRejected => "REFERRAL_REJECTED"
    | .internalError => "INTERNAL_ERROR"
    | .playerNotFound => "PLAYER_NOT_FOUND"
  mem_all := by intro a; cases a <;> simp
  code_injective := by intro a b; cases a <;> cases b <;> simp
  code_ne_zero := by intro a; cases a <;> simp

/-- Whether a backend took a player's token. -/
inductive ValidationOutcome where
  | accepted
  | rejected
deriving DecidableEq

instance : WireCode ValidationOutcome where
  all := [.accepted, .rejected]
  code
    | .accepted => 1
    | .rejected => 2
  name
    | .accepted => "ACCEPTED"
    | .rejected => "REJECTED"
  mem_all := by intro a; cases a <;> simp
  code_injective := by intro a b; cases a <;> cases b <;> simp
  code_ne_zero := by intro a; cases a <;> simp

/-- What a backend says of itself. -/
inductive BackendStatus where
  | online
  | offline
deriving DecidableEq

instance : WireCode BackendStatus where
  all := [.online, .offline]
  code
    | .online => 1
    | .offline => 2
  name
    | .online => "ONLINE"
    | .offline => "OFFLINE"
  mem_all := by intro a; cases a <;> simp
  code_injective := by intro a b; cases a <;> cases b <;> simp
  code_ne_zero := by intro a; cases a <;> simp

end GameGateway
