import Ed25519.Key.Public
import Ed25519.Proofs.Hex

/-!
# Public keys in hexadecimal

What `PublicKey.ofHex` makes of a text is decided by the text without its mark (`unmarked`). It is a
key when that is 64 digits. Failures fall into three classes, of which the first that applies is
reported: an odd number of bytes, a byte that is no digit, a wrong number of digits
(`PublicKey.ofHex_grammar`). The offset that is reported counts bytes in UTF-8, not characters.
-/

namespace Ed25519

namespace PublicKey

/-! ## The mark -/

/-- The text without `0x` in front, if it starts so. -/
def unmarked (t : String) : String :=
  if "0x".toList <+: t.toList then String.ofList (t.toList.drop 2) else t

theorem stripMark_of_marked {cs : List Char} (h : "0x".toList <+: cs) :
    stripMark cs = cs.drop 2 := by
  obtain ⟨r, rfl⟩ := h
  rfl

theorem stripMark_of_not_marked {cs : List Char} (h : ¬ "0x".toList <+: cs) :
    stripMark cs = cs := by
  fun_cases stripMark cs with
  | case1 r => exact absurd (List.prefix_append ['0', 'x'] r) h
  | case2 => rfl

theorem ofList_stripMark (t : String) : String.ofList (stripMark t.toList) = unmarked t := by
  rw [unmarked]
  split
  next h => rw [stripMark_of_marked h]
  next h => rw [stripMark_of_not_marked h, String.ofList_toList]

theorem unmarked_append (u : String) : unmarked ("0x" ++ u) = u := by
  rw [unmarked, String.toList_append, if_pos (List.prefix_append _ _)]
  exact String.ofList_toList

/-- The second character of digits is none of the mark's. -/
theorem unmarked_toHex (k : PublicKey) : unmarked k.toHex = k.toHex := by
  refine if_neg fun ⟨r, h⟩ => ?_
  have hx : 'x' ∈ k.toHex.toList := by
    rw [← h]
    exact List.mem_append_left r (by decide)
  exact absurd (Hex.forall_mem_toList_encode k.toBytes 'x' hx) (by decide)

/-! ## Keys and their digits -/

theorem toHex_injective : Function.Injective toHex := by
  intro k k' h
  have hbytes : k.toBytes = k'.toBytes := Hex.encode_injective h
  exact Except.ok.inj (by rw [← ofBytes_toBytes k, hbytes, ofBytes_toBytes])

theorem length_toList_toHex (k : PublicKey) : k.toHex.toList.length = 64 := by
  rw [toHex, Hex.length_toList_encode, length_toBytes]

theorem toLower_toHex (k : PublicKey) : k.toHex.toLower = k.toHex := Hex.toLower_encode k.toBytes

/-! ## What is read of a text -/

/-- The bytes that are taken for digits. -/
def unmarkedBytes (t : String) : Bytes := Bytes.ofString (unmarked t)

/-- The failure to read digits. -/
def hexFailure (err : Hex.DecodeError) : Error :=
  .deserialization ("public key hex decode error: " ++ err.message)

variable {t : String}

theorem ofHex_of_decode_error {err : Hex.DecodeError}
    (h : Hex.decode (unmarkedBytes t) = .error err) : ofHex t = .error (hexFailure err) := by
  rw [unmarkedBytes] at h
  rw [ofHex, ofList_stripMark, h, hexFailure]

theorem ofHex_of_decode_ok {b : Bytes} (h : Hex.decode (unmarkedBytes t) = .ok b) :
    ofHex t = ofBytes b := by
  rw [unmarkedBytes] at h
  rw [ofHex, ofList_stripMark, h]

theorem ofHex_of_odd (h : (unmarkedBytes t).length % 2 = 1) :
    ofHex t = .error (hexFailure .oddLength) :=
  ofHex_of_decode_error (Hex.decode_of_odd h)

theorem ofHex_of_not_isDigit {s : Bytes} {b : UInt8} {r : Bytes}
    (ht : unmarkedBytes t = s ++ b :: r) (heven : (unmarkedBytes t).length % 2 = 0)
    (hs : ∀ c ∈ s, Hex.IsDigit c) (hb : ¬ Hex.IsDigit b) :
    ofHex t = .error (hexFailure (.invalidDigit b s.length)) := by
  refine ofHex_of_decode_error ?_
  rw [ht] at heven ⊢
  exact Hex.decode_of_not_isDigit heven hs hb

theorem ofHex_of_length_ne (heven : (unmarkedBytes t).length % 2 = 0)
    (hall : ∀ b ∈ unmarkedBytes t, Hex.IsDigit b) (hne : (unmarkedBytes t).length ≠ 64) :
    ofHex t = .error (.invalidKeySize 32 ((unmarkedBytes t).length / 2)) := by
  obtain ⟨b, hb, -, hlen⟩ := Hex.exists_decode_eq_ok heven hall
  have hlen' : 2 * b.length = (unmarkedBytes t).length := hlen
  rw [ofHex_of_decode_ok hb, ofBytes_of_length_ne (by omega), ← hlen',
    Nat.mul_div_cancel_left _ Nat.two_pos]

theorem exists_ofHex_eq_ok (hlen : (unmarkedBytes t).length = 64)
    (hall : ∀ b ∈ unmarkedBytes t, Hex.IsDigit b) :
    ∃ k, ofHex t = .ok k ∧ k.toHex = (unmarked t).toLower := by
  obtain ⟨b, hb, hlower, hlenb⟩ := Hex.exists_decode_eq_ok (by rw [← unmarkedBytes, hlen]) hall
  have hlen' : 2 * b.length = (unmarkedBytes t).length := hlenb
  have h32 : b.length = 32 := by omega
  refine ⟨⟨b, h32⟩, ?_, hlower⟩
  rw [ofHex_of_decode_ok hb]
  exact ofBytes_toBytes ⟨b, h32⟩

/-- What is read is 64 digits: every other text is one of the failures above. -/
theorem digits_of_ofHex_eq_ok {k : PublicKey} (h : ofHex t = .ok k) :
    (unmarkedBytes t).length = 64 ∧ ∀ b ∈ unmarkedBytes t, Hex.IsDigit b := by
  rcases Nat.mod_two_eq_zero_or_one (unmarkedBytes t).length with heven | hodd
  · by_cases hall : ∀ b ∈ unmarkedBytes t, Hex.IsDigit b
    · refine ⟨?_, hall⟩
      by_contra hne
      cases h.symm.trans (ofHex_of_length_ne heven hall hne)
    · obtain ⟨s, b, r, ht, hs, hb⟩ := Hex.exists_eq_append_of_not_forall hall
      cases h.symm.trans (ofHex_of_not_isDigit ht heven hs hb)
  · cases h.symm.trans (ofHex_of_odd hodd)

/-- Digits are one byte each. -/
theorem length_unmarkedBytes (hall : ∀ b ∈ unmarkedBytes t, Hex.IsDigit b) :
    (unmarkedBytes t).length = (unmarked t).toList.length := by
  rw [Hex.toList_eq_map hall, List.length_map, unmarkedBytes]

theorem exists_ofHex_eq_ok_iff (t : String) : (∃ k, ofHex t = .ok k) ↔
    (unmarked t).toList.length = 64 ∧ ∀ c ∈ (unmarked t).toList, c ∈ Hex.alphabet := by
  rw [← Hex.forall_isDigit_iff]
  constructor
  · rintro ⟨k, h⟩
    obtain ⟨hlen, hall⟩ := digits_of_ofHex_eq_ok h
    exact ⟨(length_unmarkedBytes hall).symm.trans hlen, hall⟩
  · rintro ⟨hlen, hall⟩
    obtain ⟨k, h, -⟩ := exists_ofHex_eq_ok ((length_unmarkedBytes hall).trans hlen) hall
    exact ⟨k, h⟩

theorem toHex_of_ofHex_eq_ok {k : PublicKey} (h : ofHex t = .ok k) :
    k.toHex = (unmarked t).toLower := by
  obtain ⟨hlen, hall⟩ := digits_of_ofHex_eq_ok h
  obtain ⟨k', h', hlower⟩ := exists_ofHex_eq_ok hlen hall
  cases h.symm.trans h'
  exact hlower

/-- A text that is the digits of a key without its mark is read as that key. -/
theorem ofHex_of_unmarked_eq {k : PublicKey} (h : unmarked t = k.toHex) : ofHex t = .ok k := by
  obtain ⟨k', hk'⟩ := (exists_ofHex_eq_ok_iff t).2 (by
    rw [h]
    exact ⟨length_toList_toHex k, Hex.forall_mem_toList_encode k.toBytes⟩)
  have hlower := toHex_of_ofHex_eq_ok hk'
  rw [h, toLower_toHex] at hlower
  rw [hk', toHex_injective hlower]

/-- **Which texts are keys, and what is said of the others.** A key is read from 64 digits of either
case, with or without the mark, and written in lower case without it. Every other text has one of
three failures; of the bytes that are no digits the first is shown, with its offset. -/
theorem ofHex_grammar (t : String) :
    ((∃ k, ofHex t = .ok k) ↔
      (unmarked t).toList.length = 64 ∧ ∀ c ∈ (unmarked t).toList, c ∈ Hex.alphabet) ∧
    (∀ k, ofHex t = .ok k → k.toHex = (unmarked t).toLower) ∧
    (∀ k, ofHex k.toHex = .ok k ∧ ofHex ("0x" ++ k.toHex) = .ok k) ∧
    ((unmarkedBytes t).length % 2 = 1 →
      ofHex t = .error (.deserialization ("public key hex decode error: " ++
        "Odd number of digits"))) ∧
    ((unmarkedBytes t).length % 2 = 0 → (¬ ∀ b ∈ unmarkedBytes t, Hex.IsDigit b) →
      ∃ s b r, unmarkedBytes t = s ++ b :: r ∧ (∀ c ∈ s, Hex.IsDigit c) ∧ ¬ Hex.IsDigit b ∧
        ofHex t = .error (.deserialization ("public key hex decode error: " ++
          ("Invalid character " ++ Text.quote '\'' (String.singleton (Char.ofNat b.toNat)) ++
            " at position " ++ s.length.repr)))) ∧
    ((unmarkedBytes t).length % 2 = 0 → (∀ b ∈ unmarkedBytes t, Hex.IsDigit b) →
      (unmarkedBytes t).length ≠ 64 →
      ofHex t = .error (.invalidKeySize 32 ((unmarkedBytes t).length / 2))) := by
  refine ⟨exists_ofHex_eq_ok_iff t, fun k => toHex_of_ofHex_eq_ok, fun k => ⟨?_, ?_⟩, ofHex_of_odd,
    fun heven hsome => ?_, ofHex_of_length_ne⟩
  · exact ofHex_of_unmarked_eq (unmarked_toHex k)
  · exact ofHex_of_unmarked_eq (unmarked_append k.toHex)
  · obtain ⟨s, b, r, ht, hs, hb⟩ := Hex.exists_eq_append_of_not_forall hsome
    exact ⟨s, b, r, ht, hs, hb, ofHex_of_not_isDigit ht heven hs hb⟩

example : ofHex "0x" = .error (.invalidKeySize 32 0) := by rfl

/-- The letter beyond ASCII is two bytes, of which the first is shown as a letter of its own. -/
example : ofHex "0x00é" = .error (.deserialization
    "public key hex decode error: Invalid character 'Ã' at position 2") := by decide +kernel

end PublicKey

end Ed25519
