import Ed25519.Scheme
import Ed25519.Text.Record

/-!
# Events

What the operations of the library tell an observer. An event holds lengths, reasons and the texts
of errors, and neither keys nor messages nor signatures.
-/

namespace Ed25519

/-- The sizes of keys and signatures, in bytes. -/
structure Sizes where
  privateKey : Nat
  publicKey : Nat
  signature : Nat
  deriving DecidableEq

namespace Sizes

/-- The sizes of the scheme. -/
def standard : Sizes := ⟨64, 32, 64⟩

/-- The sizes by their names. -/
def fields (s : Sizes) : List (String × Text.FieldValue) :=
  [("private_key_len", .number s.privateKey), ("public_key_len", .number s.publicKey),
    ("signature_len", .number s.signature)]

/-- The sizes as a record. -/
def record (s : Sizes) : String := Text.renderRecord "Ed25519Params" s.fields

end Sizes

/-- Something worth telling. -/
inductive Event where
  /-- The self-test was passed. -/
  | started (sizes : Sizes)
  /-- The self-test was not passed. -/
  | notStarted (error : Error)
  /-- The random source had no seed to give. -/
  | sourceFailed (cause : String)
  /-- Bytes of the wrong number were given for a signature. -/
  | wrongLength (messageLength signatureLength : Nat)
  /-- A signature was refused. -/
  | refused (messageLength : Nat) (refusal : Scheme.Refusal)
  deriving DecidableEq

namespace Event

/-- How much an event matters. -/
inductive Level where
  | trace
  | debug
  | error
  deriving DecidableEq

/-- The level of an event. -/
def level : Event → Level
  | started _ => .debug
  | notStarted _ | sourceFailed _ => .error
  | wrongLength .. | refused .. => .trace

/-- The message of an event. -/
def message : Event → String
  | started _ => "signature backend initialized"
  | notStarted _ => "signature backend failed to initialize"
  | sourceFailed _ => "entropy source failed during key generation"
  | wrongLength .. => "signature rejected: wrong length"
  | refused .. => "signature rejected"

/-- The fields of an event. -/
def fields (e : Event) : List (String × Text.FieldValue) :=
  ("algorithm", .text algorithmName) ::
    match e with
    | started s => s.fields
    | notStarted err => [("error", .text err.message)]
    | sourceFailed c => [("error", .text c)]
    | wrongLength m s => [("message_len", .number m), ("signature_len", .number s)]
    | refused m r => [("message_len", .number m), ("reason", .text r.message)]

end Event

end Ed25519
