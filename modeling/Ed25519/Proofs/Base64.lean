import Ed25519.Base64
import Ed25519.Proofs.Bytes
import Ed25519.Proofs.Result
import Mathlib.Data.Nat.Digits.Defs
import Mathlib.Tactic.Ring

/-!
# Canonical base64

A text is read as a byte string exactly when it is the text that is written for that byte string
(`Base64.decode_ofString_eq_ok_iff`). So a byte string has one text: missing or surplus padding,
other symbols, blanks, and last symbols whose unused bits are not zero are all refused. What is
written is the standard format (`Base64.isText_iff`): read as numbers, the symbols are the bytes
with zero bits appended up to a whole symbol (`Base64.Spells`), and padding signs fill up the last
group.

Reading is followed group by group. `Base64.codes` are the bytes of a text that is written; four
symbols of it stand for three bytes (`Base64.codes_bytesOfValues`), and the last group for up to
three (`Base64.codes_lastBytes`).
-/

namespace Ed25519

namespace Base64

/-! ## Symbols -/

/-- The symbols in the order of their values. -/
def alphabet : List Char :=
  "ABCDEFGHIJKLMNOPQRSTUVWXYZabcdefghijklmnopqrstuvwxyz0123456789+/".toList

theorem getElem?_alphabet {n : ℕ} (h : n < 64) : alphabet[n]? = some (symbol n) := by
  have hall : ∀ n < 64, alphabet[n]? = some (symbol n) := by decide
  exact hall n h

/-- The ASCII code of the symbol of value `n`. -/
def code (n : ℕ) : UInt8 := UInt8.ofNat (symbol n).toNat

theorem value?_code {n : ℕ} (h : n < 64) : value? (code n) = some n := by
  have hall : ∀ n < 64, value? (code n) = some n := by decide
  exact hall n h

theorem code_ne_padding {n : ℕ} (h : n < 64) : code n ≠ padding := by
  have hall : ∀ n < 64, code n ≠ padding := by decide
  exact hall n h

theorem value?_eq_some_iff {c : UInt8} {n : ℕ} : value? c = some n ↔ n < 64 ∧ c = code n := by
  constructor
  · intro h
    have hall : ∀ c : UInt8, ∀ n ∈ value? c, n < 64 ∧ c = code n :=
      Bytes.forall_byte (by decide +kernel)
    exact hall c n h
  · rintro ⟨hn, rfl⟩
    exact value?_code hn

theorem valueAt_code {n : ℕ} (h : n < 64) (i : ℕ) : valueAt (code n) i = .ok n := by
  rw [valueAt, value?_code h]

theorem valueAt_eq_ok_iff {c : UInt8} {i n : ℕ} :
    valueAt c i = .ok n ↔ n < 64 ∧ c = code n := by
  rw [← value?_eq_some_iff, valueAt]
  cases value? c with
  | none => simp
  | some m => simp

/-! ## The codes of a byte string -/

/-- The ASCII codes of the symbols and padding signs of a byte string. -/
def codes (b : Bytes) : Bytes := (symbols b).map fun c => UInt8.ofNat c.toNat

/-- Four symbols stand for three bytes. -/
theorem codes_bytesOfValues {x y z w : ℕ} (hx : x < 64) (hy : y < 64) (hz : z < 64) (hw : w < 64)
    (b : Bytes) :
    codes (bytesOfValues x y z w ++ b) = code x :: code y :: code z :: code w :: codes b := by
  have h₁ : (x * 4 + y / 16) % 256 / 4 = x := by omega
  have h₂ : (x * 4 + y / 16) % 256 % 4 * 16 + (y % 16 * 16 + z / 4) % 256 / 16 = y := by omega
  have h₃ : (y % 16 * 16 + z / 4) % 256 % 16 * 4 + (z % 4 * 64 + w) % 256 / 64 = z := by omega
  have h₄ : (z % 4 * 64 + w) % 256 % 64 = w := by omega
  simp only [codes, bytesOfValues, List.cons_append, List.nil_append, symbols, UInt8.toNat_ofNat',
    Nat.reducePow, h₁, h₂, h₃, h₄, List.map_cons]
  rfl

/-- Three symbols whose last two bits are zero stand for two bytes. -/
theorem codes_take_two {x y z : ℕ} (hx : x < 64) (hy : y < 64) (hz : z < 64) (hz' : z % 4 = 0) :
    codes ((bytesOfValues x y z 0).take 2) = [code x, code y, code z, padding] := by
  have h₁ : (x * 4 + y / 16) % 256 / 4 = x := by omega
  have h₂ : (x * 4 + y / 16) % 256 % 4 * 16 + (y % 16 * 16 + z / 4) % 256 / 16 = y := by omega
  have h₃ : (y % 16 * 16 + z / 4) % 256 % 16 * 4 = z := by omega
  simp only [codes, bytesOfValues, List.take_succ_cons, List.take_zero, symbols,
    UInt8.toNat_ofNat', Nat.reducePow, h₁, h₂, h₃, List.map_cons]
  rfl

/-- Two symbols whose last four bits are zero stand for one byte. -/
theorem codes_take_one {x y : ℕ} (hx : x < 64) (hy : y < 64) (hy' : y % 16 = 0) :
    codes ((bytesOfValues x y 0 0).take 1) = [code x, code y, padding, padding] := by
  have h₁ : (x * 4 + y / 16) % 256 / 4 = x := by omega
  have h₂ : (x * 4 + y / 16) % 256 % 4 * 16 = y := by omega
  simp only [codes, bytesOfValues, List.take_succ_cons, List.take_zero, symbols,
    UInt8.toNat_ofNat', Nat.reducePow, h₁, h₂, List.map_cons]
  rfl

/-! ## The last group -/

/-- What the last group holds: symbols, and then padding signs. -/
theorem lastValues_eq_ok {g : Bytes} {place i : ℕ} {ns : List ℕ} {pad : ℕ}
    (h : lastValues place i g = .ok (ns, pad)) :
    g = ns.map code ++ List.replicate pad padding ∧ ∀ n ∈ ns, n < 64 := by
  induction g generalizing place i ns with
  | nil =>
    cases h
    exact ⟨rfl, by simp⟩
  | cons c r ih =>
    rw [lastValues] at h
    split at h
    next hc =>
      split at h
      next hr =>
        cases h
        have hall : r = List.replicate r.length padding := by
          rw [List.eq_replicate_iff]
          simpa using hr.2
        refine ⟨?_, by simp⟩
        rw [List.map_nil, List.nil_append, List.replicate_succ, ← hall, hc]
      next => cases h
    next =>
      cases hn : valueAt c i with
      | error err =>
        rw [hn] at h
        cases h
      | ok n =>
        obtain ⟨hlt, rfl⟩ := valueAt_eq_ok_iff.1 hn
        rw [hn] at h
        cases hr : lastValues (place + 1) (i + 1) r with
        | error err =>
          rw [hr] at h
          cases h
        | ok p =>
          rw [hr] at h
          cases h
          obtain ⟨rfl, hns⟩ := ih hr
          refine ⟨rfl, ?_⟩
          simpa using ⟨hlt, hns⟩

theorem lastValues_codes {ns : List ℕ} (hns : ∀ n ∈ ns, n < 64) (place i pad : ℕ)
    (hpad : pad = 0 ∨ 2 ≤ place + ns.length) :
    lastValues place i (ns.map code ++ List.replicate pad padding) = .ok (ns, pad) := by
  induction ns generalizing place i with
  | nil =>
    cases pad with
    | zero => rfl
    | succ pad =>
      have hplace : 2 ≤ place := by simpa using hpad
      simp [lastValues, List.replicate_succ, hplace]
  | cons n ns ih =>
    obtain ⟨hn, hns⟩ := List.forall_mem_cons.1 hns
    have htail := ih hns (place + 1) (i + 1) (by
      rw [List.length_cons] at hpad
      omega)
    rw [List.map_cons, List.cons_append, lastValues, if_neg (code_ne_padding hn), valueAt_code hn,
      Result.ok_bind, htail]
    rfl

/-- The bytes of the symbols of a last group. -/
def lastBytes (i : ℕ) (g : Bytes) : List ℕ → Except DecodeError Bytes
  | [x, y, z, w] => .ok (bytesOfValues x y z w)
  | [x, y, z] =>
    if z % 4 = 0 then .ok ((bytesOfValues x y z 0).take 2)
    else .error (.invalidLastSymbol (g.getD 2 0) (i + 2))
  | [x, y] =>
    if y % 16 = 0 then .ok ((bytesOfValues x y 0 0).take 1)
    else .error (.invalidLastSymbol (g.getD 1 0) (i + 1))
  | _ => .ok []

theorem decodeLast_of_lastValues {i : ℕ} {g : Bytes} {ns : List ℕ} {pad : ℕ}
    (h : lastValues 0 i g = .ok (ns, pad)) :
    decodeLast i g =
      if ns.length < 2 ∧ g ≠ [] then .error (.invalidLength (i + ns.length))
      else if (ns.length + pad) % 4 ≠ 0 then .error .invalidPadding
      else lastBytes i g ns := by
  rw [decodeLast, h, Result.ok_bind]
  by_cases hlen : ns.length < 2 ∧ g ≠ []
  · simp only [if_pos hlen]
    rfl
  · by_cases hpad : (ns.length + pad) % 4 ≠ 0
    · simp only [if_neg hlen, if_pos hpad]
      rfl
    · simp only [if_neg hlen, if_neg hpad]
      rfl

/-- The last group has four places or none, and its symbols with their padding signs are what is
written for its bytes. -/
theorem codes_lastBytes {i : ℕ} {g : Bytes} {ns : List ℕ} {pad : ℕ} (hns : ∀ n ∈ ns, n < 64)
    (hlen : ns.length = 0 ∧ pad = 0 ∨ 2 ≤ ns.length ∧ ns.length + pad = 4) {b : Bytes}
    (h : lastBytes i g ns = .ok b) : codes b = ns.map code ++ List.replicate pad padding := by
  rcases ns with _ | ⟨x, _ | ⟨y, _ | ⟨z, _ | ⟨w, _ | ⟨v, ns⟩⟩⟩⟩⟩
  · obtain rfl : pad = 0 := by simpa using hlen
    cases h
    rfl
  · simp at hlen
  · obtain rfl : pad = 2 := by simp at hlen; omega
    simp only [List.forall_mem_cons] at hns
    rw [lastBytes] at h
    split at h
    next hy =>
      cases h
      exact codes_take_one hns.1 hns.2.1 hy
    next => cases h
  · obtain rfl : pad = 1 := by simp at hlen; omega
    simp only [List.forall_mem_cons] at hns
    rw [lastBytes] at h
    split at h
    next hz =>
      cases h
      exact codes_take_two hns.1 hns.2.1 hns.2.2.1 hz
    next => cases h
  · obtain rfl : pad = 0 := by simp at hlen; omega
    simp only [List.forall_mem_cons] at hns
    cases h
    have hcodes := codes_bytesOfValues hns.1 hns.2.1 hns.2.2.1 hns.2.2.2.1 []
    rwa [List.append_nil] at hcodes
  · simp at hlen
    omega

theorem decodeLast_eq_ok {i : ℕ} {g b : Bytes} (hg : g.length ≤ 4) (h : decodeLast i g = .ok b) :
    g = codes b := by
  cases hl : lastValues 0 i g with
  | error err =>
    rw [decodeLast, hl] at h
    cases h
  | ok p =>
    obtain ⟨ns, pad⟩ := p
    obtain ⟨rfl, hns⟩ := lastValues_eq_ok hl
    rw [decodeLast_of_lastValues hl] at h
    rw [List.length_append, List.length_map, List.length_replicate] at hg
    split at h
    next => cases h
    next hlen =>
      split at h
      next => cases h
      next hpad =>
        refine (codes_lastBytes hns ?_ h).symm
        rw [not_and, not_not, List.append_eq_nil_iff, List.map_eq_nil_iff,
          List.replicate_eq_nil_iff, ← List.length_eq_zero_iff] at hlen
        omega

/-! ## All groups -/

theorem decodeGroups_eq_ok {i : ℕ} {t b : Bytes} (h : decodeGroups i t = .ok b) : t = codes b := by
  induction i, t using decodeGroups.induct generalizing b with
  | case1 i c₁ c₂ c₃ c₄ c₅ r ih =>
    simp only [decodeGroups, Result.bind_eq_ok_iff, valueAt_eq_ok_iff] at h
    obtain ⟨x, ⟨hx, rfl⟩, y, ⟨hy, rfl⟩, z, ⟨hz, rfl⟩, w, ⟨hw, rfl⟩, b', hr, h⟩ := h
    cases h
    rw [codes_bytesOfValues hx hy hz hw, ← ih hr]
  | case2 i g hg =>
    have hlen : g.length ≤ 4 := by
      rcases g with _ | ⟨_, _ | ⟨_, _ | ⟨_, _ | ⟨_, _ | ⟨c, r⟩⟩⟩⟩⟩
      case cons.cons.cons.cons.cons => exact (hg _ _ _ _ _ _ rfl).elim
      all_goals simp
    rw [decodeGroups.eq_2 _ _ hg] at h
    exact decodeLast_eq_ok hlen h

/-! ## Reading what is written -/

theorem exists_bytesOfValues (a b c : UInt8) :
    ∃ x y z w, x < 64 ∧ y < 64 ∧ z < 64 ∧ w < 64 ∧ [a, b, c] = bytesOfValues x y z w := by
  have ha := a.toNat_lt
  have hb := b.toNat_lt
  have hc := c.toNat_lt
  refine ⟨a.toNat / 4, a.toNat % 4 * 16 + b.toNat / 16, b.toNat % 16 * 4 + c.toNat / 64,
    c.toNat % 64, by omega, by omega, by omega, by omega, ?_⟩
  have h₁ : a.toNat / 4 * 4 + (a.toNat % 4 * 16 + b.toNat / 16) / 16 = a.toNat := by omega
  have h₂ : (a.toNat % 4 * 16 + b.toNat / 16) % 16 * 16 + (b.toNat % 16 * 4 + c.toNat / 64) / 4 =
      b.toNat := by omega
  have h₃ : (b.toNat % 16 * 4 + c.toNat / 64) % 4 * 64 + c.toNat % 64 = c.toNat := by omega
  simp only [bytesOfValues, h₁, h₂, h₃, UInt8.ofNat_toNat]

theorem exists_take_two (a b : UInt8) :
    ∃ x y z, x < 64 ∧ y < 64 ∧ z < 64 ∧ z % 4 = 0 ∧ [a, b] = (bytesOfValues x y z 0).take 2 := by
  obtain ⟨x, y, z, w, hx, hy, hz, -, h⟩ := exists_bytesOfValues a b 0
  refine ⟨x, y, z / 4 * 4, hx, hy, by omega, by omega, ?_⟩
  have htake : [a, b] = (bytesOfValues x y z w).take 2 := by rw [← h]; rfl
  have hdiv : z / 4 * 4 / 4 = z / 4 := by omega
  rw [htake]
  simp only [bytesOfValues, hdiv, List.take_succ_cons, List.take_zero]

theorem exists_take_one (a : UInt8) :
    ∃ x y, x < 64 ∧ y < 64 ∧ y % 16 = 0 ∧ [a] = (bytesOfValues x y 0 0).take 1 := by
  obtain ⟨x, y, z, w, hx, hy, -, -, h⟩ := exists_bytesOfValues a 0 0
  refine ⟨x, y / 16 * 16, hx, by omega, by omega, ?_⟩
  have htake : [a] = (bytesOfValues x y z w).take 1 := by rw [← h]; rfl
  have hdiv : y / 16 * 16 / 16 = y / 16 := by omega
  rw [htake]
  simp only [bytesOfValues, hdiv, List.take_succ_cons, List.take_zero]

theorem decodeLast_of_lastBytes {i : ℕ} (ns : List ℕ) (pad : ℕ) {b : Bytes}
    (hns : ∀ n ∈ ns, n < 64) (hlen : 2 ≤ ns.length) (hpad : ns.length + pad = 4)
    (h : lastBytes i (ns.map code ++ List.replicate pad padding) ns = .ok b) :
    decodeLast i (ns.map code ++ List.replicate pad padding) = .ok b := by
  have hl := lastValues_codes hns 0 i pad (Or.inr (by omega))
  rw [decodeLast_of_lastValues hl, if_neg (by omega), if_neg (by omega), h]

theorem decodeGroups_codes (i : ℕ) (b : Bytes) : decodeGroups i (codes b) = .ok b := by
  induction b using symbols.induct generalizing i with
  | case1 a b c r ih =>
    obtain ⟨x, y, z, w, hx, hy, hz, hw, habc⟩ := exists_bytesOfValues a b c
    have hb : a :: b :: c :: r = bytesOfValues x y z w ++ r := by rw [← habc]; rfl
    rw [hb, codes_bytesOfValues hx hy hz hw]
    have ih := ih (i + 4)
    cases hr : codes r with
    | nil =>
      rw [hr] at ih
      obtain rfl : [] = r := Except.ok.inj ih
      rw [List.append_nil]
      exact decodeLast_of_lastBytes [x, y, z, w] 0
        (by simp [hx, hy, hz, hw]) (by simp) rfl rfl
    | cons e r' =>
      rw [hr] at ih
      simp only [decodeGroups, valueAt_code, hx, hy, hz, hw, Result.ok_bind, ih]
      rfl
  | case2 a b =>
    obtain ⟨x, y, z, hx, hy, hz, hz', hab⟩ := exists_take_two a b
    rw [hab, codes_take_two hx hy hz hz']
    exact decodeLast_of_lastBytes [x, y, z] 1
      (by simp [hx, hy, hz]) (by simp) rfl (if_pos hz')
  | case3 a =>
    obtain ⟨x, y, hx, hy, hy', ha⟩ := exists_take_one a
    rw [ha, codes_take_one hx hy hy']
    exact decodeLast_of_lastBytes [x, y] 2
      (by simp [hx, hy]) (by simp) rfl (if_pos hy')
  | case4 => rfl

theorem length_codes_mod_four (b : Bytes) : (codes b).length % 4 = 0 := by
  induction b using symbols.induct with
  | case1 a b c r ih =>
    rw [codes, List.length_map] at ih ⊢
    simp only [symbols, List.length_cons]
    omega
  | case2 | case3 | case4 => simp [codes, symbols]

/-- **Reading accepts what is written, and nothing else.** -/
theorem decode_eq_ok_iff {t b : Bytes} : decode t = .ok b ↔ t = codes b := by
  constructor
  · intro h
    rw [decode] at h
    split at h
    next c hc =>
      split at h
      next => cases h
      next => exact decodeGroups_eq_ok h
    next hnone =>
      cases h
      exact List.getLast?_eq_none_iff.1 hnone
  · rintro rfl
    rw [decode]
    split
    next c hc =>
      rw [if_neg (by rw [length_codes_mod_four]; omega)]
      exact decodeGroups_codes 0 b
    next hnone =>
      have h := decodeGroups_codes 0 b
      rw [List.getLast?_eq_none_iff.1 hnone] at h
      exact h

/-! ## The format -/

/-- The values `ns` of the symbols and the number `pad` of padding signs spell the bytes `b`: read
as numbers, the most significant digit first, the symbols are the bytes with two zero bits appended
for each padding sign. -/
structure Spells (b : Bytes) (ns : List ℕ) (pad : ℕ) : Prop where
  lt : ∀ n ∈ ns, n < 64
  pad_lt : pad < 3
  length_eq : 3 * ns.length = 4 * b.length + pad
  number_eq : Nat.ofDigits 64 ns.reverse =
    4 ^ pad * Nat.ofDigits 256 (b.map UInt8.toNat).reverse

/-- The bytes determine how they are spelled. -/
theorem Spells.unique {b : Bytes} {ns ns' : List ℕ} {pad pad' : ℕ} (h : Spells b ns pad)
    (h' : Spells b ns' pad') : ns = ns' ∧ pad = pad' := by
  have hlen := h.length_eq
  have hlen' := h'.length_eq
  have hpad := h.pad_lt
  have hpad' := h'.pad_lt
  obtain rfl : pad = pad' := by omega
  refine ⟨List.reverse_inj.1 (Nat.ofDigits_inj_of_len_eq (b := 64) (by decide) ?_ ?_ ?_ ?_), rfl⟩
  · rw [List.length_reverse, List.length_reverse]
    omega
  · simpa using h.lt
  · simpa using h'.lt
  · rw [h.number_eq, h'.number_eq]

/-- A group of four symbols goes in front of what is spelled. -/
theorem Spells.cons {b : Bytes} {ns : List ℕ} {pad : ℕ} (h : Spells b ns pad) (x y z : UInt8) :
    Spells (x :: y :: z :: b) (x.toNat / 4 :: (x.toNat % 4 * 16 + y.toNat / 16) ::
      (y.toNat % 16 * 4 + z.toNat / 64) :: z.toNat % 64 :: ns) pad := by
  have hx := x.toNat_lt
  have hy := y.toNat_lt
  have hz := z.toNat_lt
  have hlen := h.length_eq
  refine ⟨?_, h.pad_lt, ?_, ?_⟩
  · simp only [List.forall_mem_cons]
    exact ⟨by omega, by omega, by omega, by omega, h.lt⟩
  · simp only [List.length_cons]
    omega
  · have hpow : 64 ^ ns.length = 4 ^ pad * 256 ^ b.length := by
      rw [show 64 = 4 ^ 3 from rfl, show 256 = 4 ^ 4 from rfl, ← pow_mul, ← pow_mul, hlen, pow_add,
        mul_comm]
    have hgroup : z.toNat % 64 + 64 * (y.toNat % 16 * 4 + z.toNat / 64) +
        64 ^ 2 * (x.toNat % 4 * 16 + y.toNat / 16) + 64 ^ 3 * (x.toNat / 4) =
        z.toNat + 256 * y.toNat + 256 ^ 2 * x.toNat := by omega
    simp only [List.map_cons, Nat.ofDigits_reverse_cons, List.length_cons, List.length_map,
      h.number_eq]
    calc
      _ = 4 ^ pad * Nat.ofDigits 256 (b.map UInt8.toNat).reverse + 64 ^ ns.length *
          (z.toNat % 64 + 64 * (y.toNat % 16 * 4 + z.toNat / 64) +
            64 ^ 2 * (x.toNat % 4 * 16 + y.toNat / 16) + 64 ^ 3 * (x.toNat / 4)) := by ring
      _ = _ := by rw [hpow, hgroup]; ring

/-- The symbols of a byte string spell it. -/
theorem exists_spells (b : Bytes) : ∃ ns pad, Spells b ns pad ∧
    symbols b = ns.map symbol ++ List.replicate pad '=' := by
  induction b using symbols.induct with
  | case1 x y z r ih =>
    obtain ⟨ns, pad, h, hr⟩ := ih
    exact ⟨_, pad, h.cons x y z, by rw [symbols, hr]; rfl⟩
  | case2 x y =>
    have hx := x.toNat_lt
    have hy := y.toNat_lt
    refine ⟨[_, _, _], 1, ⟨?_, by decide, rfl, ?_⟩, rfl⟩
    · simp only [List.forall_mem_cons]
      exact ⟨by omega, by omega, by omega, by simp⟩
    · simp [Nat.ofDigits]
      omega
  | case3 x =>
    have hx := x.toNat_lt
    refine ⟨[_, _], 2, ⟨?_, by decide, rfl, ?_⟩, rfl⟩
    · simp only [List.forall_mem_cons]
      exact ⟨by omega, by omega, by simp⟩
    · simp [Nat.ofDigits]
      omega
  | case4 => exact ⟨[], 0, ⟨by simp, by decide, rfl, rfl⟩, rfl⟩

/-! ## Texts -/

theorem mem_symbols {b : Bytes} {c : Char} (hc : c ∈ symbols b) :
    c = '=' ∨ ∃ n < 64, c = symbol n := by
  obtain ⟨ns, pad, h, hb⟩ := exists_spells b
  rw [hb, List.mem_append, List.mem_map] at hc
  rcases hc with ⟨n, hn, rfl⟩ | hc
  · exact Or.inr ⟨n, h.lt n hn, rfl⟩
  · exact Or.inl (List.eq_of_mem_replicate hc)

theorem toNat_lt_of_mem_symbols {b : Bytes} {c : Char} (hc : c ∈ symbols b) : c.toNat < 128 := by
  have hall : ∀ n < 64, (symbol n).toNat < 128 := by decide
  rcases mem_symbols hc with rfl | ⟨n, hn, rfl⟩
  · decide
  · exact hall n hn

theorem ofString_encode (b : Bytes) : Bytes.ofString (encode b) = codes b :=
  Bytes.ofString_ofList_of_lt fun _ => toNat_lt_of_mem_symbols

/-- **A text is read as the byte string whose text it is**, and all other texts are refused. -/
theorem decode_ofString_eq_ok_iff {t : String} {b : Bytes} :
    decode (Bytes.ofString t) = .ok b ↔ t = encode b := by
  rw [decode_eq_ok_iff, ← ofString_encode, Bytes.ofString_injective.eq_iff]

/-- The text `t` is the standard base64 of `b`: symbols of the standard alphabet that spell `b`,
with their padding signs. -/
def IsText (b : Bytes) (t : String) : Prop :=
  ∃ ns pad, Spells b ns pad ∧
    t = String.ofList (ns.map (fun n => alphabet.getD n '=') ++ List.replicate pad '=')

theorem isText_iff {b : Bytes} {t : String} : IsText b t ↔ t = encode b := by
  have hsymbols : ∀ ns : List ℕ, (∀ n ∈ ns, n < 64) →
      ns.map (fun n => alphabet.getD n '=') = ns.map symbol := by
    refine fun ns hns => List.map_congr_left fun n hn => ?_
    rw [List.getD_eq_getElem?_getD, getElem?_alphabet (hns n hn), Option.getD_some]
  obtain ⟨ns, pad, h, hb⟩ := exists_spells b
  rw [encode, hb]
  constructor
  · rintro ⟨ns', pad', h', rfl⟩
    obtain ⟨rfl, rfl⟩ := h.unique h'
    rw [hsymbols ns h.lt]
  · rintro rfl
    exact ⟨ns, pad, h, by rw [hsymbols ns h.lt]⟩

/-- A text has four places for three bytes, and nothing but symbols and padding signs in them. -/
theorem IsText.shape {b : Bytes} {t : String} (h : IsText b t) :
    t.toList.length = 4 * ((b.length + 2) / 3) ∧ ∀ c ∈ t.toList, c ∈ alphabet ∨ c = '=' := by
  obtain ⟨ns, pad, hspells, rfl⟩ := h
  have hlen := hspells.length_eq
  have hpad := hspells.pad_lt
  rw [String.toList_ofList]
  constructor
  · rw [List.length_append, List.length_map, List.length_replicate]
    omega
  · intro c hc
    rw [List.mem_append, List.mem_map] at hc
    rcases hc with ⟨n, hn, rfl⟩ | hc
    · have hlt : n < alphabet.length := hspells.lt n hn
      rw [List.getD_eq_getElem?_getD, List.getElem?_eq_getElem hlt, Option.getD_some]
      exact Or.inl (List.getElem_mem hlt)
    · exact Or.inr (List.eq_of_mem_replicate hc)

end Base64

end Ed25519
