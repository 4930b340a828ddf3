import Ed25519.Proofs.Amendment
import Ed25519.Proofs.Reported
import Ed25519.Proofs.Text

/-!
# What a report tells of its error

A report names its causes, the errors that it can come from (`Error.isCause_toReport`). There is one
of them, but for a signature of the wrong length, whose report is also that of a refusal in the same
words: errors with one report are the same or such a pair (`Error.toReport_eq_iff`). The openings of
the messages keep apart the errors that share a topic, and numbers can be read back from the
sentence in which they stand (`Error.sizeText_injective`).

What a report says of a signature is settled by its topic, which no amendment changes
(`Report.isInvalidSignature_foldl_amend`).
-/

namespace Ed25519

namespace Error

/-- What is said of a signature of the wrong length. -/
def sizeText (expected actual : ℕ) : String :=
  "Invalid signature size: expected " ++ expected.repr ++ ", got " ++ actual.repr

theorem sizeText_injective {x y x' y' : ℕ} (h : sizeText x y = sizeText x' y') :
    x = x' ∧ y = y' :=
  Decimal.eq_of_repr_append_eq ',' [' ', 'g', 'o', 't', ' '] (by decide) (by decide) (by decide) h

/-! ## Causes of a report -/

/-- The error can be what a report tells. -/
def IsCause (err : Error) (r : Report) : Prop :=
  match r.content with
  | .length x y => r.context = algorithmName ∧ err = .invalidKeySize x y
  | .text .invalidKey m => r.context = algorithmName ∧ err = .invalidKey m
  | .text .serialization m => r.context = algorithmName ∧ err = .deserialization m
  | .text .randomGeneration m =>
    ∃ d, m = "Key generation failed: " ++ d ∧ err = .keyGeneration r.context d
  | .text .invalidSignature m =>
    err = .verification r.context m ∨
      r.context = algorithmName ∧ ∃ x y, m = sizeText x y ∧ err = .invalidSignatureSize x y
  | .text .other m =>
    (∃ d, m = "Signature generation failed: " ++ d ∧ err = .signatureGeneration r.context d) ∨
      ∃ d, m = "Initialization failed: " ++ d ∧ err = .initialization r.context d

theorem isCause_toReport (err : Error) : err.IsCause err.toReport := by
  cases err with
  | invalidKeySize x y => exact ⟨rfl, rfl⟩
  | invalidSignatureSize x y => exact Or.inr ⟨rfl, x, y, rfl, rfl⟩
  | invalidKey d => exact ⟨rfl, rfl⟩
  | keyGeneration a d => exact ⟨d, rfl, rfl⟩
  | signatureGeneration a d => exact Or.inl ⟨d, rfl, rfl⟩
  | verification a d => exact Or.inl rfl
  | initialization a d => exact Or.inr ⟨d, rfl, rfl⟩
  | deserialization d => exact ⟨rfl, rfl⟩

theorem signatureGeneration_text_ne (d d' : String) :
    "Signature generation failed: " ++ d ≠ "Initialization failed: " ++ d' := by
  intro h
  have hhead := congrArg (fun s : String => s.toList.head?) h
  simp at hhead

/-- The errors that share a report although they differ: a signature of the wrong length, and a
refusal that says so in the same words. -/
def Alias (err err' : Error) : Prop :=
  ∃ x y, err = .invalidSignatureSize x y ∧ err' = .verification "Ed25519"
    ("Invalid signature size: expected " ++ x.repr ++ ", got " ++ y.repr)

/-- **Errors with one report are the same**, or aliases. -/
theorem toReport_eq_iff {err err' : Error} :
    err.toReport = err'.toReport ↔ err = err' ∨ Alias err err' ∨ Alias err' err := by
  constructor
  · intro h
    have hcause := isCause_toReport err
    rw [h] at hcause
    cases err' with
    | invalidKeySize x y => exact Or.inl hcause.2
    | invalidKey d => exact Or.inl hcause.2
    | deserialization d => exact Or.inl hcause.2
    | keyGeneration a d =>
      obtain ⟨d', hd, rfl⟩ := hcause
      rw [(String.append_right_inj _).1 hd]
      exact Or.inl rfl
    | verification a d =>
      rcases hcause with rfl | ⟨rfl, x, y, rfl, rfl⟩
      · exact Or.inl rfl
      · exact Or.inr (Or.inl ⟨x, y, rfl, rfl⟩)
    | invalidSignatureSize x y =>
      rcases hcause with rfl | ⟨-, x', y', hxy, rfl⟩
      · exact Or.inr (Or.inr ⟨x, y, rfl, rfl⟩)
      · obtain ⟨rfl, rfl⟩ := sizeText_injective hxy
        exact Or.inl rfl
    | signatureGeneration a d =>
      rcases hcause with ⟨d', hd, rfl⟩ | ⟨d', hd, rfl⟩
      · rw [(String.append_right_inj _).1 hd]
        exact Or.inl rfl
      · exact absurd hd (signatureGeneration_text_ne d d')
    | initialization a d =>
      rcases hcause with ⟨d', hd, rfl⟩ | ⟨d', hd, rfl⟩
      · exact absurd hd.symm (signatureGeneration_text_ne d' d)
      · rw [(String.append_right_inj _).1 hd]
        exact Or.inl rfl
  · rintro (rfl | ⟨x, y, rfl, rfl⟩ | ⟨x, y, rfl, rfl⟩)
    all_goals rfl

end Error

/-! ## Verdicts -/

namespace Report

/-- No amendments change what a report says of a signature. -/
theorem isInvalidSignature_foldl_amend (r : Report) (as : List Amendment) :
    (as.foldl amend r).isInvalidSignature = r.isInvalidSignature := by
  rw [foldl_amend, isInvalidSignature_revise]

end Report

namespace Error

theorem isFatal_of_isVerificationFailure {err : Error} (h : err.isVerificationFailure = true) :
    err.isFatal = false := by
  cases err with
  | verification | invalidSignatureSize => rfl
  | invalidKeySize | invalidKey | keyGeneration | signatureGeneration | initialization
  | deserialization => cases h

/-- **A report tells its error.** Only a signature of the wrong length can be mistaken, for a
refusal in the same words, and the verdict on a signature stays with the report whatever is
amended. -/
theorem toReport_nearly_injective (err err' : Error) :
    (err.toReport = err'.toReport ↔ err = err' ∨ Alias err err' ∨ Alias err' err) ∧
    err.toReport.isInvalidSignature = err.isVerificationFailure ∧
    ¬ (err.isVerificationFailure = true ∧ err.isFatal = true) ∧
    ∀ as : List Report.Amendment,
      (as.foldl Report.amend err.toReport).isInvalidSignature = err.isVerificationFailure := by
  refine ⟨toReport_eq_iff, isInvalidSignature_toReport err, fun ⟨hv, hf⟩ => ?_, fun as => ?_⟩
  · rw [isFatal_of_isVerificationFailure hv] at hf
    exact Bool.false_ne_true hf
  · rw [Report.isInvalidSignature_foldl_amend, isInvalidSignature_toReport]

end Error

end Ed25519
