import Ed25519.Hex
import Ed25519.Proofs.Bytes
import Ed25519.Proofs.Result
import Ed25519.Proofs.Text
import Mathlib.Data.List.Induction

/-!
# Hexadecimal text is read pair by pair

A text whose bytes are all digits is read, and what is read is written as that text in lower case
(`Hex.exists_decode_eq_ok`); a byte string is told by its digits (`Hex.encode_injective`). Of a text
that has an even number of bytes, the first of them that is no digit is reported, by its offset
(`Hex.decode_of_not_isDigit`), and the message tells both (`Hex.DecodeError.message_injective`).
-/

namespace Ed25519

namespace Hex

/-! ## Digits -/

/-- The digits of either case. -/
def alphabet : List Char := "0123456789abcdefABCDEF".toList

/-- The byte is the code of a digit. -/
def IsDigit (b : UInt8) : Prop := Char.ofNat b.toNat ∈ alphabet

instance (b : UInt8) : Decidable (IsDigit b) := inferInstanceAs (Decidable (_ ∈ _))

theorem value?_eq_none : ∀ {b : UInt8}, ¬ IsDigit b → value? b = none :=
  @(Bytes.forall_byte (by decide +kernel))

/-- A digit has a value, and that value is written as the digit in lower case. -/
theorem exists_value?_eq_some : ∀ {b : UInt8}, IsDigit b →
    ∃ n < 16, value? b = some n ∧ digit n = (Char.ofNat b.toNat).toLower :=
  @(Bytes.forall_byte (by decide +kernel))

theorem digit_inj {m n : ℕ} (hm : m < 16) (hn : n < 16) (h : digit m = digit n) : m = n := by
  have hall : ∀ m < 16, ∀ n < 16, digit m = digit n → m = n := by decide
  exact hall m hm n hn h

theorem digit_mem_alphabet {n : ℕ} (h : n < 16) : digit n ∈ alphabet := by
  have hall : ∀ n < 16, digit n ∈ alphabet := by decide
  exact hall n h

theorem toLower_digit {n : ℕ} (h : n < 16) : (digit n).toLower = digit n := by
  have hall : ∀ n < 16, (digit n).toLower = digit n := by decide
  exact hall n h

/-! ## Writing -/

theorem digits_cons (x : UInt8) (b : Bytes) :
    digits (x :: b) = digit (x.toNat / 16) :: digit (x.toNat % 16) :: digits b := rfl

theorem length_digits (b : Bytes) : (digits b).length = 2 * b.length := by
  induction b with
  | nil => rfl
  | cons x b ih =>
    rw [digits_cons, List.length_cons, List.length_cons, List.length_cons, ih]
    omega

theorem forall_mem_digits {p : Char → Prop} (h : ∀ n < 16, p (digit n)) (b : Bytes) :
    ∀ c ∈ digits b, p c := by
  induction b with
  | nil => exact List.forall_mem_nil p
  | cons x b ih =>
    have hx := x.toNat_lt
    rw [digits_cons, List.forall_mem_cons, List.forall_mem_cons]
    exact ⟨h _ (by omega), h _ (by omega), ih⟩

theorem digits_injective : Function.Injective digits := by
  intro b b' h
  induction b generalizing b' with
  | nil =>
    cases b' with
    | nil => rfl
    | cons x' b' => cases h
  | cons x b ih =>
    cases b' with
    | nil => cases h
    | cons x' b' =>
      rw [digits_cons, digits_cons, List.cons.injEq, List.cons.injEq] at h
      obtain ⟨hhigh, hlow, hrest⟩ := h
      have hx := x.toNat_lt
      have hx' := x'.toNat_lt
      have hdiv := digit_inj (by omega) (by omega) hhigh
      have hmod := digit_inj (by omega) (by omega) hlow
      rw [ih hrest, UInt8.toNat_inj.1 (show x.toNat = x'.toNat by omega)]

theorem encode_injective : Function.Injective encode :=
  fun _ _ h => digits_injective (String.ofList_injective h)

/-! ## Reading -/

/-- Digits in pairs are read as the bytes whose digits they are, up to case. -/
theorem exists_decodePairs_eq_ok {t : Bytes} (heven : t.length % 2 = 0)
    (hall : ∀ b ∈ t, IsDigit b) (i : ℕ) :
    ∃ b, decodePairs i t = .ok b ∧ digits b = t.map fun c => (Char.ofNat c.toNat).toLower := by
  induction t using List.twoStepInduction generalizing i with
  | nil => exact ⟨[], rfl, rfl⟩
  | singleton h => cases heven
  | cons_cons h l r ih =>
    rw [List.forall_mem_cons, List.forall_mem_cons] at hall
    obtain ⟨hh, hl, hr⟩ := hall
    obtain ⟨x, hx, hvx, hdx⟩ := exists_value?_eq_some hh
    obtain ⟨y, hy, hvy, hdy⟩ := exists_value?_eq_some hl
    have hlen : r.length % 2 = 0 := by
      rw [List.length_cons, List.length_cons] at heven
      omega
    obtain ⟨b, hb, hdigits⟩ := ih hlen hr (i + 2)
    refine ⟨UInt8.ofNat (16 * x + y) :: b, ?_, ?_⟩
    · simp only [decodePairs, hvx, hvy, hb]
      rfl
    · have hn : (UInt8.ofNat (16 * x + y)).toNat = 16 * x + y := by
        rw [UInt8.toNat_ofNat']
        omega
      have hdiv : (16 * x + y) / 16 = x := by omega
      have hmod : (16 * x + y) % 16 = y := by omega
      rw [digits_cons, hn, hdiv, hmod, hdx, hdy, hdigits]
      rfl

/-- Pairs of digits are read up to the first byte that is no digit. -/
theorem decodePairs_of_not_isDigit {s : Bytes} {b : UInt8} {r : Bytes}
    (heven : (s ++ b :: r).length % 2 = 0) (hs : ∀ c ∈ s, IsDigit c) (hb : ¬ IsDigit b) (i : ℕ) :
    decodePairs i (s ++ b :: r) = .error (.invalidDigit b (i + s.length)) := by
  induction s using List.twoStepInduction generalizing i with
  | nil =>
    cases r with
    | nil => cases heven
    | cons l r => simp only [List.nil_append, decodePairs, value?_eq_none hb]; rfl
  | singleton h =>
    obtain ⟨x, -, hx, -⟩ := exists_value?_eq_some (hs h (List.mem_singleton_self h))
    simp only [List.cons_append, List.nil_append, decodePairs, hx, value?_eq_none hb]
    rfl
  | cons_cons h l s ih =>
    rw [List.forall_mem_cons, List.forall_mem_cons] at hs
    obtain ⟨hh, hl, hs⟩ := hs
    obtain ⟨x, -, hx, -⟩ := exists_value?_eq_some hh
    obtain ⟨y, -, hy, -⟩ := exists_value?_eq_some hl
    have hlen : (s ++ b :: r).length % 2 = 0 := by
      rw [List.cons_append, List.cons_append, List.length_cons, List.length_cons] at heven
      omega
    simp only [List.cons_append, decodePairs, hx, hy, ih hlen hs (i + 2)]
    rw [List.length_cons, List.length_cons, show i + (s.length + 1 + 1) = i + 2 + s.length by omega]
    rfl

theorem decode_of_odd {t : Bytes} (h : t.length % 2 = 1) : decode t = .error .oddLength := if_pos h

theorem decode_of_even {t : Bytes} (h : t.length % 2 = 0) : decode t = decodePairs 0 t :=
  if_neg (by omega)

theorem decode_of_not_isDigit {s : Bytes} {b : UInt8} {r : Bytes}
    (heven : (s ++ b :: r).length % 2 = 0) (hs : ∀ c ∈ s, IsDigit c) (hb : ¬ IsDigit b) :
    decode (s ++ b :: r) = .error (.invalidDigit b s.length) := by
  rw [decode_of_even heven, decodePairs_of_not_isDigit heven hs hb, Nat.zero_add]

/-- Bytes that are not all digits have a first one that is none. -/
theorem exists_eq_append_of_not_forall {t : Bytes} (h : ¬ ∀ b ∈ t, IsDigit b) :
    ∃ s b r, t = s ++ b :: r ∧ (∀ c ∈ s, IsDigit c) ∧ ¬ IsDigit b := by
  cases hfind : t.find? fun b => !decide (IsDigit b) with
  | none =>
    refine absurd (fun b hb => ?_) h
    simpa using List.find?_eq_none.1 hfind b hb
  | some b =>
    obtain ⟨hb, s, r, rfl, hs⟩ := List.find?_eq_some_iff_append.1 hfind
    exact ⟨s, b, r, rfl, fun c hc => by simpa using hs c hc, by simpa using hb⟩

/-! ## Texts

Digits are characters in ASCII, each of which is one byte; every byte of another character is
outside ASCII and no digit. So the bytes of a text are all digits when its characters are. -/

theorem ascii_of_isDigit : ∀ b : UInt8, IsDigit b →
    (Char.ofNat b.toNat).toNat < 128 ∧ UInt8.ofNat (Char.ofNat b.toNat).toNat = b :=
  Bytes.forall_byte (by decide +kernel)

theorem ascii_of_mem_alphabet {c : Char} (h : c ∈ alphabet) :
    c.toNat < 128 ∧ Char.ofNat (UInt8.ofNat c.toNat).toNat = c := by
  have hall : alphabet.all fun c =>
      c.toNat < 128 ∧ Char.ofNat (UInt8.ofNat c.toNat).toNat = c := by
    decide
  exact of_decide_eq_true (List.all_eq_true.1 hall c h)

theorem toList_eq_map {u : String} (h : ∀ b ∈ Bytes.ofString u, IsDigit b) :
    u.toList = (Bytes.ofString u).map fun b => Char.ofNat b.toNat := by
  have hascii : ∀ c ∈ (Bytes.ofString u).map fun b => Char.ofNat b.toNat, c.toNat < 128 :=
    List.forall_mem_map.2 fun b hb => (ascii_of_isDigit b (h b hb)).1
  have hback : (Bytes.ofString u).map (fun b => UInt8.ofNat (Char.ofNat b.toNat).toNat) =
      Bytes.ofString u :=
    (List.map_congr_left fun b hb => (ascii_of_isDigit b (h b hb)).2).trans (List.map_id _)
  have hbytes := Bytes.ofString_ofList_of_lt hascii
  rw [List.map_map] at hbytes
  have hu : String.ofList ((Bytes.ofString u).map fun b => Char.ofNat b.toNat) = u :=
    Bytes.ofString_injective (hbytes.trans hback)
  exact (congrArg String.toList hu.symm).trans String.toList_ofList

theorem forall_isDigit_iff (u : String) :
    (∀ b ∈ Bytes.ofString u, IsDigit b) ↔ ∀ c ∈ u.toList, c ∈ alphabet := by
  constructor
  · intro h
    rw [toList_eq_map h]
    exact List.forall_mem_map.2 h
  · intro h
    have hascii := Bytes.ofString_ofList_of_lt fun c hc => (ascii_of_mem_alphabet (h c hc)).1
    rw [String.ofList_toList] at hascii
    rw [hascii]
    refine List.forall_mem_map.2 fun c hc => ?_
    rw [IsDigit, (ascii_of_mem_alphabet (h c hc)).2]
    exact h c hc

theorem toList_toLower (u : String) : u.toLower.toList = u.toList.map Char.toLower :=
  String.toList_map

/-- A text of digits in pairs is read, and what is read is written as that text in lower case. -/
theorem exists_decode_eq_ok {u : String} (heven : (Bytes.ofString u).length % 2 = 0)
    (hall : ∀ b ∈ Bytes.ofString u, IsDigit b) :
    ∃ b, decode (Bytes.ofString u) = .ok b ∧ encode b = u.toLower ∧
      2 * b.length = (Bytes.ofString u).length := by
  obtain ⟨b, hb, hdigits⟩ := exists_decodePairs_eq_ok heven hall 0
  refine ⟨b, (decode_of_even heven).trans hb, ?_, ?_⟩
  · refine String.toList_inj.1 ?_
    rw [encode, String.toList_ofList, hdigits, toList_toLower, toList_eq_map hall, List.map_map]
    rfl
  · rw [← length_digits, hdigits, List.length_map]

theorem forall_mem_toList_encode (b : Bytes) : ∀ c ∈ (encode b).toList, c ∈ alphabet := by
  rw [encode, String.toList_ofList]
  exact forall_mem_digits (fun _ => digit_mem_alphabet) b

theorem length_toList_encode (b : Bytes) : (encode b).toList.length = 2 * b.length := by
  rw [encode, String.toList_ofList, length_digits]

theorem toLower_encode (b : Bytes) : (encode b).toLower = encode b := by
  refine String.toList_inj.1 ?_
  rw [toList_toLower, encode, String.toList_ofList]
  have hlower : ∀ c ∈ digits b, c.toLower = c := forall_mem_digits (fun _ => toLower_digit) b
  exact (List.map_congr_left hlower).trans (List.map_id _)

/-! ## Messages -/

/-- A byte is told by the character with that code point. -/
theorem toNat_ofNat_toNat : ∀ b : UInt8, (Char.ofNat b.toNat).toNat = b.toNat :=
  Bytes.forall_byte (by decide +kernel)

theorem DecodeError.message_invalidDigit (b : UInt8) (i : ℕ) :
    (invalidDigit b i).message = "Invalid character " ++
      (Text.quote '\'' (String.singleton (Char.ofNat b.toNat)) ++ (" at position " ++ i.repr)) := by
  rw [← String.append_assoc, ← String.append_assoc]
  rfl

theorem DecodeError.oddLength_message_ne (b : UInt8) (i : ℕ) :
    oddLength.message ≠ (invalidDigit b i).message := by
  have hodd : oddLength.message.toList.head? = some 'O' := by decide +kernel
  have hinvalid : (invalidDigit b i).message.toList.head? = some 'I' := by
    rw [message_invalidDigit, String.toList_append]
    rfl
  intro h
  rw [h, hinvalid] at hodd
  cases hodd

/-- **A message tells the failure**, with the byte and its offset. -/
theorem DecodeError.message_injective : Function.Injective DecodeError.message := by
  intro err err' h
  cases err with
  | oddLength =>
    cases err' with
    | oddLength => rfl
    | invalidDigit b' i' => exact absurd h (oddLength_message_ne b' i')
  | invalidDigit b i =>
    cases err' with
    | oddLength => exact absurd h.symm (oddLength_message_ne b i)
    | invalidDigit b' i' =>
      rw [message_invalidDigit, message_invalidDigit, String.append_right_inj] at h
      obtain ⟨hb, hi⟩ := Text.quote_append_inj (Or.inl rfl) h
      rw [String.append_right_inj] at hi
      have hchar : Char.ofNat b.toNat = Char.ofNat b'.toNat := by simpa using hb
      have hnat := congrArg Char.toNat hchar
      rw [toNat_ofNat_toNat, toNat_ofNat_toNat] at hnat
      rw [UInt8.toNat_inj.1 hnat, Decimal.repr_injective hi]

end Hex

end Ed25519
