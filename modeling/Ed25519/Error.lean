import Ed25519.Text.Record

/-!
# Errors

What the operations of the library can fail with. An error that `isVerificationFailure` says that
a signature is not valid; one that `isFatal` says that the library could not do its work at all.
-/

namespace Ed25519

/-- The name of the algorithm. -/
def algorithmName : String := "Ed25519"

/-- A failure of an operation. -/
inductive Error where
  /-- Bytes of the wrong number for a key. -/
  | invalidKeySize (expected actual : Nat)
  /-- Bytes of the wrong number for a signature. -/
  | invalidSignatureSize (expected actual : Nat)
  /-- Key material that cannot be used. -/
  | invalidKey (details : String)
  /-- No key could be generated. -/
  | keyGeneration (algorithm details : String)
  /-- No signature could be made. -/
  | signatureGeneration (algorithm details : String)
  /-- A signature that is not valid. -/
  | verification (algorithm details : String)
  /-- The library did not pass its self-test. -/
  | initialization (algorithm details : String)
  /-- A text that holds no value of the wanted kind. -/
  | deserialization (details : String)
  deriving DecidableEq

namespace Error

/-- The message of an error. -/
def message : Error → String
  | invalidKeySize e a => "Invalid key size: expected " ++ e.repr ++ ", got " ++ a.repr
  | invalidSignatureSize e a => "Invalid signature size: expected " ++ e.repr ++ ", got " ++ a.repr
  | invalidKey d => "Invalid key: " ++ d
  | keyGeneration a d => a ++ " key generation failed: " ++ d
  | signatureGeneration a d => a ++ " signature generation failed: " ++ d
  | verification a d => a ++ " verification failed: " ++ d
  | initialization a d => a ++ " initialization failed: " ++ d
  | deserialization d => "Deserialization error: " ++ d

/-- The error says that a signature is not valid. -/
def isVerificationFailure : Error → Bool
  | verification .. | invalidSignatureSize .. => true
  | _ => false

/-- The error must not be answered by another attempt. -/
def isFatal : Error → Bool
  | keyGeneration .. | signatureGeneration .. | initialization .. => true
  | _ => false

open Text in
/-- The error as a record. -/
def record : Error → String
  | invalidKeySize e a => renderRecord "InvalidKeySize" (sizes e a)
  | invalidSignatureSize e a => renderRecord "InvalidSignatureSize" (sizes e a)
  | invalidKey d => renderTuple "InvalidKey" (.text d)
  | keyGeneration a d => renderRecord "KeyGeneration" (texts a d)
  | signatureGeneration a d => renderRecord "SignatureGeneration" (texts a d)
  | verification a d => renderRecord "Verification" (texts a d)
  | initialization a d => renderRecord "Initialization" (texts a d)
  | deserialization d => renderTuple "Deserialization" (.text d)
where
  sizes (e a : Nat) := [("expected", .number e), ("actual", .number a)]
  texts (a d : String) := [("algorithm", .text a), ("details", .text d)]

end Error

end Ed25519
