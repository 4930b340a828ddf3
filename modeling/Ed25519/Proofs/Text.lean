import Ed25519.Text.Quoted
import Mathlib.Data.List.Basic
import Mathlib.Data.Nat.Notation
import Mathlib.Tactic.IntervalCases
import Mathlib.Tactic.SplitIfs

/-!
# Texts that can be read back

A number can be read back from the sentence in which it stands (`Decimal.eq_of_repr_append_eq`), and
a text from its quoted form, whatever is written behind it (`Text.quote_append_inj`): each character
is read back from its written form (`Text.unescape_escape`), and the closing delimiter is the first
that is not escaped. So no two texts are quoted alike (`Text.quote_injective`), and a character of
ASCII with a printed form is shown by that form (`Text.quote_singleton`).
-/

namespace Ed25519

/-! ## Numbers in a sentence -/

theorem Decimal.repr_injective : Function.Injective Nat.repr := by
  intro n n' h
  have hvalue := congrArg (fun s : String => Nat.ofDigitChars 10 s.toList 0) h
  simpa only [Nat.toList_repr, Nat.ofDigitChars_ten_toDigits] using hvalue

theorem Decimal.notMem_toList_repr {c : Char} (hc : c.isDigit = false) (n : ℕ) :
    c ∉ n.repr.toList := by
  intro h
  rw [Nat.toList_repr] at h
  have hdigit := Nat.isDigit_of_mem_toDigits (by decide) (by decide) h
  rw [hc] at hdigit
  exact Bool.false_ne_true hdigit

/-- Two numbers can be read back from a sentence: the first of them ends at the character with which
the separator starts. -/
theorem Decimal.eq_of_repr_append_eq {text separator : String} (c : Char) (cs : List Char)
    (hsep : separator.toList = c :: cs) (hc : c.isDigit = false) (hcs : c ∉ cs) {x y x' y' : ℕ}
    (h : text ++ x.repr ++ separator ++ y.repr = text ++ x'.repr ++ separator ++ y'.repr) :
    x = x' ∧ y = y' := by
  have hrest : c ∉ cs ++ y.repr.toList := by
    rw [List.mem_append, not_or]
    exact ⟨hcs, Decimal.notMem_toList_repr hc y⟩
  have hlist := congrArg String.toList h
  simp only [String.toList_append, hsep, List.append_assoc, List.cons_append,
    List.append_cancel_left_eq] at hlist
  rw [List.append_cons_inj_of_notMem (Decimal.notMem_toList_repr hc x) hrest] at hlist
  obtain ⟨hx, -, hy⟩ := hlist
  rw [List.append_cancel_left_eq] at hy
  exact ⟨Decimal.repr_injective (String.toList_inj.1 hx),
    Decimal.repr_injective (String.toList_inj.1 hy)⟩

/-! ## Escaped characters -/

namespace Text

/-- Read the rest of a code point in hexadecimal digits, of which `n` is read, and the closing brace.
-/
def readCodePoint (n : ℕ) : List Char → Option (Char × List Char)
  | [] => none
  | '\x7d' :: r => some (Char.ofNat n, r)
  | c :: r => readCodePoint (16 * n + (if c.isDigit then c.toNat - 48 else c.toNat - 87)) r

/-- The character that a letter stands for after a backslash. -/
def unescapeLetter (l : Char) : Char :=
  if l = 'n' then '\n'
  else if l = 'r' then '\r'
  else if l = 't' then '\t'
  else if l = '0' then '\x00'
  else l

/-- Read one character in its written form. -/
def unescape : List Char → Option (Char × List Char)
  | [] => none
  | '\\' :: 'u' :: '\x7b' :: r => readCodePoint 0 r
  | '\\' :: l :: r => some (unescapeLetter l, r)
  | c :: r => some (c, r)

theorem readCodePoint_digitChar {d : ℕ} (h : d < 16) (n : ℕ) (r : List Char) :
    readCodePoint n (Nat.digitChar d :: r) = readCodePoint (16 * n + d) r := by
  interval_cases d <;> rfl

theorem readCodePoint_toDigits (n : ℕ) (r : List Char) :
    readCodePoint 0 (Nat.toDigits 16 n ++ r) = readCodePoint n r := by
  induction n using Nat.strongRecOn generalizing r with
  | ind n ih =>
    rcases Nat.lt_or_ge n 16 with h | h
    · rw [Nat.toDigits_of_lt_base h, List.singleton_append, readCodePoint_digitChar h, Nat.mul_zero,
        Nat.zero_add]
    · rw [Nat.toDigits_of_base_le (by decide) h, List.append_assoc, List.singleton_append,
        ih (n / 16) (by omega), readCodePoint_digitChar (Nat.mod_lt n (by decide)),
        Nat.div_add_mod]

theorem unescape_codePoint (c : Char) (r : List Char) :
    unescape (['\\', 'u', '\x7b'] ++ Nat.toDigits 16 c.toNat ++ ['\x7d'] ++ r) = some (c, r) := by
  simp only [List.append_assoc, List.cons_append, List.nil_append, unescape,
    readCodePoint_toDigits]
  rw [readCodePoint, Char.ofNat_toNat]

theorem unescape_plain {c : Char} (h : c ≠ '\\') (r : List Char) :
    unescape (c :: r) = some (c, r) := by
  rw [unescape]
  · exact fun _ hc => absurd hc h
  · exact fun _ _ hc => absurd hc h

/-- The delimiters between which texts are quoted. -/
def IsDelimiter (d : Char) : Prop := d = '\'' ∨ d = '"'

variable {d : Char}

/-- **A character is read back from its written form**, whatever follows it. -/
theorem unescape_escape (hd : IsDelimiter d) (c : Char) (r : List Char) :
    unescape (escape d c ++ r) = some (c, r) := by
  unfold escape
  split_ifs with hself hn hr ht h0 hu
  · rw [Bool.or_eq_true, decide_eq_true_iff, decide_eq_true_iff] at hself
    rcases hself with rfl | rfl
    · rcases hd with rfl | rfl <;> rfl
    · rfl
  · subst c
    rfl
  · subst c
    rfl
  · subst c
    rfl
  · obtain rfl : c = '\x00' := Char.toNat_inj.1 h0
    rfl
  · exact unescape_codePoint c r
  · refine unescape_plain (fun h => hself ?_) r
    rw [h, Bool.or_eq_true]
    exact Or.inr rfl

theorem escape_append_inj (hd : IsDelimiter d) {c c' : Char} {r r' : List Char}
    (h : escape d c ++ r = escape d c' ++ r') : c = c' ∧ r = r' := by
  have hread := congrArg unescape h
  rw [unescape_escape hd, unescape_escape hd, Option.some.injEq, Prod.mk.injEq] at hread
  exact hread

/-- The written form of a character does not start with the delimiter. -/
theorem escape_append_ne_cons (hd : IsDelimiter d) (c : Char) (r u : List Char) :
    escape d c ++ r ≠ d :: u := by
  have hbackslash : d ≠ '\\' := by rcases hd with rfl | rfl <;> decide
  intro h
  have hread := congrArg unescape h
  rw [unescape_escape hd, unescape_plain hbackslash, Option.some.injEq, Prod.mk.injEq] at hread
  obtain ⟨rfl, rfl⟩ := hread
  have hself : escape c c = ['\\', c] := if_pos (by simp only [decide_true, Bool.true_or])
  rw [hself] at h
  exact hbackslash (List.cons.inj h).1.symm

/-! ## Quoted texts -/

theorem flatMap_escape_append_inj (hd : IsDelimiter d) {s s' u u' : List Char}
    (h : s.flatMap (escape d) ++ d :: u = s'.flatMap (escape d) ++ d :: u') : s = s' ∧ u = u' := by
  induction s generalizing s' with
  | nil =>
    cases s' with
    | nil => exact ⟨rfl, (List.cons.inj h).2⟩
    | cons c' s' =>
      rw [List.flatMap_cons, List.append_assoc] at h
      exact absurd h.symm (escape_append_ne_cons hd _ _ _)
  | cons c s ih =>
    rw [List.flatMap_cons, List.append_assoc] at h
    cases s' with
    | nil => exact absurd h (escape_append_ne_cons hd _ _ _)
    | cons c' s' =>
      rw [List.flatMap_cons, List.append_assoc] at h
      obtain ⟨rfl, htail⟩ := escape_append_inj hd h
      obtain ⟨rfl, hu⟩ := ih htail
      exact ⟨rfl, hu⟩

/-- **A quoted text is told apart from what is written behind it.** -/
theorem quote_append_inj (hd : IsDelimiter d) {s s' u u' : String}
    (h : quote d s ++ u = quote d s' ++ u') : s = s' ∧ u = u' := by
  have hlist := congrArg String.toList h
  simp only [quote, String.toList_append, String.toList_ofList, List.cons_append,
    List.append_assoc, List.nil_append, List.cons.injEq, true_and] at hlist
  obtain ⟨hs, hu⟩ := flatMap_escape_append_inj hd hlist
  exact ⟨String.toList_inj.1 hs, String.toList_inj.1 hu⟩

/-- **No two texts are quoted alike.** -/
theorem quote_injective (hd : IsDelimiter d) : Function.Injective (quote d) :=
  fun _ _ h => (quote_append_inj hd (congrArg (· ++ "") h)).1

/-- **A character of ASCII with a printed form is shown by that form.** -/
theorem quote_singleton {c : Char} (hlow : 0x20 ≤ c.toNat) (hhigh : c.toNat < 0x7f) (hc : c ≠ d)
    (hbackslash : c ≠ '\\') : quote d (String.singleton c) = String.ofList [d, c, d] := by
  have hprintable : isUnprintable c = false := by
    rw [isUnprintable, if_pos (by omega)]
    simp only [Bool.or_eq_false_iff, decide_eq_false_iff_not, beq_eq_false_iff_ne]
    omega
  have hcontrol : ∀ x : Char, x.toNat < 0x20 → c ≠ x := by
    rintro x hx rfl
    omega
  have hescape : escape d c = [c] := by
    rw [escape, if_neg (by simp [hc, hbackslash]), if_neg (hcontrol '\n' (by decide)),
      if_neg (hcontrol '\r' (by decide)), if_neg (hcontrol '\t' (by decide)), if_neg (by omega),
      hprintable]
    rfl
  rw [quote, String.toList_singleton, List.flatMap_singleton, hescape]
  rfl

end Text

end Ed25519
