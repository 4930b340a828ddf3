import Ed25519.Error

/-!
# Reports

A report is a failure told without reference to the signature scheme at work: a context, and either
a message on one of five topics or the mismatch of a length. Every `Error` becomes a report
(`Error.toReport`). A caller may amend a report's context or message on its way (`Report.amend`),
or those of a result that fails (`Report.amendResult`); the topic stays.
-/

namespace Ed25519

/-- What the message of a report is about. -/
inductive Topic where
  | invalidKey
  | invalidSignature
  | serialization
  | randomGeneration
  | other
  deriving DecidableEq

/-- The content of a report. -/
inductive Content where
  | text (topic : Topic) (message : String)
  | length (expected actual : Nat)
  deriving DecidableEq

/-- A failure, in a context. -/
structure Report where
  context : String
  content : Content
  deriving DecidableEq

namespace Report

/-- The report says that a signature is not valid. -/
def isInvalidSignature (r : Report) : Bool :=
  match r.content with
  | .text .invalidSignature _ => true
  | _ => false

/-- The message of a report. -/
def message (r : Report) : String :=
  match r.content with
  | .text .invalidKey m => "Invalid key: " ++ r.context ++ ": " ++ m
  | .text .invalidSignature m => "Invalid signature: " ++ r.context ++ ": " ++ m
  | .text .serialization m => "Serialization error: " ++ r.context ++ ": " ++ m
  | .text .randomGeneration m => "Random generation error: " ++ r.context ++ ": " ++ m
  | .text .other m => r.context ++ ": " ++ m
  | .length e a =>
    r.context ++ ": invalid length (expected " ++ e.repr ++ ", got " ++ a.repr ++ ")"

/-- The name of the kind of report. -/
def kindName (r : Report) : String :=
  match r.content with
  | .text .invalidKey _ => "InvalidKey"
  | .text .invalidSignature _ => "InvalidSignature"
  | .text .serialization _ => "SerializationError"
  | .text .randomGeneration _ => "RandomGenerationError"
  | .text .other _ => "Other"
  | .length .. => "InvalidLength"

/-- The report as a record. -/
def record (r : Report) : String :=
  Text.renderRecord r.kindName <| ("context", .text r.context) ::
    match r.content with
    | .text _ m => [("message", .text m)]
    | .length e a => [("expected", .number e), ("actual", .number a)]

/-! ## Amendments -/

/-- A change to a report. -/
inductive Amendment where
  | context (s : String)
  | message (s : String)

/-- Replace the context. -/
def setContext (r : Report) (s : String) : Report := { r with context := s }

/-- Replace the message. The report of a length has none and stays as it is. -/
def setMessage (r : Report) (s : String) : Report :=
  match r.content with
  | .text t _ => { r with content := .text t s }
  | .length .. => r

/-- Make one change. -/
def amend (r : Report) : Amendment → Report
  | .context s => r.setContext s
  | .message s => r.setMessage s

end Report

/-- The report of an error. The algorithm is its context. -/
def Error.toReport : Error → Report
  | invalidKeySize e a => ⟨algorithmName, .length e a⟩
  | invalidSignatureSize e a =>
    ⟨algorithmName, .text .invalidSignature (message (invalidSignatureSize e a))⟩
  | invalidKey d => ⟨algorithmName, .text .invalidKey d⟩
  | keyGeneration a d => ⟨a, .text .randomGeneration ("Key generation failed: " ++ d)⟩
  | signatureGeneration a d => ⟨a, .text .other ("Signature generation failed: " ++ d)⟩
  | verification a d => ⟨a, .text .invalidSignature d⟩
  | initialization a d => ⟨a, .text .other ("Initialization failed: " ++ d)⟩
  | deserialization d => ⟨algorithmName, .text .serialization d⟩

/-! ## Amended results -/

/-- A kind of failure that is told by a report. -/
class Reportable (ε : Type) where
  report : ε → Report

instance : Reportable Report := ⟨id⟩

instance : Reportable Error := ⟨Error.toReport⟩

namespace Report

variable {ε α : Type} [Reportable ε]

/-- Tell a failure by its report, with one change; a success stays as it is. -/
def amendResult (x : Except ε α) (a : Amendment) : Except Report α :=
  x.mapError fun err => (Reportable.report err).amend a

/-- Tell a failure by its report, with changes made in turn. The first of them finds the failure,
and the others its report. -/
def amendAll (x : Except ε α) : List Amendment → Except Report α
  | [] => x.mapError Reportable.report
  | a :: as => as.foldl amendResult (amendResult x a)

end Report

end Ed25519
