import Ed25519.Proofs.ConstantTime
import Ed25519.Proofs.Hex
import Ed25519.Proofs.Signing

/-!
# What the comparison of keys decides

Private keys are compared in constant time. They are found equal when they agree in all of their 64
bytes (`PrivateKey.beq_iff_forall_getElem?`), when they are written as one text
(`PrivateKey.text_injective`), and only then; and keys that are found equal answer alike
(`PrivateKey.comparison_decides`).
-/

namespace Ed25519

namespace PrivateKey

variable {k k' : PrivateKey}

theorem length_toBytes (k : PrivateKey) : k.toBytes.length = 64 := k.toOctets.length_eq

theorem beq_iff_forall_getElem? : (k == k') = true ↔ ∀ i < 64, k.toBytes[i]? = k'.toBytes[i]? := by
  rw [beq_iff_eq, ← toBytes_injective.eq_iff, ConstantTime.eq_iff_forall_getElem?, length_toBytes,
    length_toBytes, eq_self_iff_true, true_and]

theorem text_injective : Function.Injective text := by
  intro k k' h
  have hdigits : Hex.encode k.toBytes = Hex.encode k'.toBytes := (String.append_right_inj _).1 h
  exact toBytes_injective (Hex.encode_injective hdigits)

/-- **The comparison in constant time decides equality**, of byte strings of any lengths. So it finds
private keys equal when all of their bytes agree and when their texts do, and keys that it finds equal
have one public key and make the same signatures. -/
theorem comparison_decides :
    (∀ a b : Bytes,
      ConstantTime.choice a b =
        (if a.length = b.length ∧ ∀ i < a.length, a[i]? = b[i]? then 1 else 0) ∧
      (ConstantTime.equal a b = true ↔ ConstantTime.choice a b = 1)) ∧
    ∀ k k' : PrivateKey,
      ((k == k') = true ↔ ∀ i < 64, k.toBytes[i]? = k'.toBytes[i]?) ∧
      ((k == k') = true ↔ k.text = k'.text) ∧
      ((k == k') = true →
        ∀ e, k.publicKey e = k'.publicKey e ∧ ∀ m, k.sign m e = k'.sign m e) := by
  refine ⟨fun a b => ⟨ConstantTime.choice_eq_ite a b, ConstantTime.equal_iff_choice_eq_one⟩,
    fun k k' => ⟨beq_iff_forall_getElem?, ?_, fun h e => ?_⟩⟩
  · rw [beq_iff_eq, text_injective.eq_iff]
  · rw [eq_of_beq h]
    exact ⟨rfl, fun _ => rfl⟩

/-- The key of the self-test, read back from its bytes, makes the same signature. With a bit of its
public half inverted it is another key, with another text. -/
theorem comparison_decides_testSeed :
    let e : Environment := .fresh (.script [] "")
    let k := ofSeed Startup.testSeed
    let k' := ofOctets k.toOctets
    let k'' := ofOctets (k.toOctets.invertBit 511)
    (k == k') = true ∧ (∃ s, (k.sign [] e).result = .ok s ∧ (k'.sign [] e).result = .ok s) ∧
      ¬ (k == k'') = true ∧ k.text ≠ k''.text := by
  intro e k k' k''
  have hsame : (k == k') = true := by decide +kernel
  have hother : ¬ (k == k'') = true := by decide +kernel
  have hsign := ((comparison_decides.2 k k').2.2 hsame e).2 []
  have hresult := result_sign_ofSeed (Environment.usable_fresh (.script [] "")) Startup.testSeed []
  refine ⟨hsame, ⟨_, hresult, ?_⟩, hother, fun h => hother ?_⟩
  · rw [← hsign]
    exact hresult
  · exact (comparison_decides.2 k k'').2.1.2 h

end PrivateKey

end Ed25519
