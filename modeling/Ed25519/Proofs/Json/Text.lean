import Ed25519.Interchange
import Ed25519.Proofs.Result
import Mathlib.Data.Nat.Notation
import Mathlib.Tactic.SplitIfs

/-!
# Reading JSON texts

A string is read back from the text that is written for it, whatever its characters
(`Json.parse_renderString`): a character is read back from its written form
(`Json.readBody_escapeChar`), and the closing quote is the first that is not escaped. To decode a
text that holds a string is to decode that string (`Json.decodeText_of_parse`).

Arrays are read as deep as the reader allows, and no deeper (`Json.readValue_nested`,
`Json.readValue_replicate_bracket`).
-/

namespace Ed25519.Json

/-! ## The body of a string -/

theorem readBody_quote (r : List Char) : readBody ('"' :: r) = .ok ([], r) := by
  rw [readBody]

theorem readBody_escape {r r' : List Char} {c : Char} (h : readEscape r = .ok (c, r')) :
    readBody ('\\' :: r) = (readBody r').map fun p => (c :: p.1, p.2) := by
  rw [readBody]
  split
  next herr =>
    rw [h] at herr
    cases herr
  next hok =>
    rw [h] at hok
    cases hok
    rfl

theorem readBody_plain {c : Char} (hquote : c ≠ '"') (hescape : c ≠ '\\') (hc : ¬ c.toNat < 0x20)
    (r : List Char) : readBody (c :: r) = (readBody r).map fun p => (c :: p.1, p.2) := by
  rw [readBody]
  · rw [if_neg hc]
  · simpa using hquote
  · simpa using hescape

theorem hexValue?_digitChar {n : ℕ} (h : n < 16) : hexValue? (Nat.digitChar n) = some n := by
  have hall : ∀ n < 16, hexValue? (Nat.digitChar n) = some n := by decide
  exact hall n h

/-- A character below the space is read back from the code unit that is written for it. -/
theorem readEscape_unit {c : Char} (hc : c.toNat < 0x20) (r : List Char) :
    readEscape ('u' :: '0' :: '0' :: Nat.digitChar (c.toNat / 16) ::
      Nat.digitChar (c.toNat % 16) :: r) = .ok (c, r) := by
  have hzero : hexValue? '0' = some 0 := rfl
  have hhigh := hexValue?_digitChar (n := c.toNat / 16) (by omega)
  have hlow := hexValue?_digitChar (n := c.toNat % 16) (by omega)
  have hunit : readUnit ('0' :: '0' :: Nat.digitChar (c.toNat / 16) ::
      Nat.digitChar (c.toNat % 16) :: r) = .ok (c.toNat, r) := by
    have hn : ((0 * 16 + 0) * 16 + c.toNat / 16) * 16 + c.toNat % 16 = c.toNat := by omega
    simp only [readUnit, hzero, hhigh, hlow, hn]
  rw [readEscape, if_pos rfl, readUnicode, hunit]
  simp only
  rw [if_neg (by omega), if_neg (by omega), Char.ofNat_toNat]

/-- A character that has a letter is read back from that letter. -/
theorem readEscape_letter {c l : Char} (h : escapeLetter? c = some l) (r : List Char) :
    readEscape (l :: r) = .ok (c, r) := by
  unfold escapeLetter? at h
  split_ifs at h with hself hb hf hn hr ht
  · obtain rfl := Option.some.inj h
    rcases hself with rfl | rfl <;> rfl
  all_goals
    subst c
    obtain rfl := Option.some.inj h
    rfl

/-- The written form of a character is read as that character. -/
theorem readBody_escapeChar (c : Char) (r : List Char) :
    readBody (escapeChar c ++ r) = (readBody r).map fun p => (c :: p.1, p.2) := by
  rw [escapeChar]
  split
  next l hl => exact readBody_escape (readEscape_letter hl r)
  next hnone =>
    have hquote : c ≠ '"' := by
      rintro rfl
      cases hnone
    have hescape : c ≠ '\\' := by
      rintro rfl
      cases hnone
    split
    next hlt => exact readBody_escape (readEscape_unit hlt r)
    next hle => exact readBody_plain hquote hescape hle r

/-- **The written form of a string is read as that string**, whatever follows it. -/
theorem readBody_flatMap_escapeChar (s r : List Char) :
    readBody (s.flatMap escapeChar ++ '"' :: r) = .ok (s, r) := by
  induction s with
  | nil => exact readBody_quote r
  | cons c s ih =>
    rw [List.flatMap_cons, List.append_assoc, readBody_escapeChar, ih]
    rfl

/-! ## Texts that hold a string -/

theorem skipBlanks_quote (r : List Char) : skipBlanks ('"' :: r) = '"' :: r := rfl

/-- A word or a number is no string. -/
theorem readScalar_ne_string {s r : List Char} {t : String} :
    readScalar s ≠ .ok (.string t, r) := by
  intro h
  unfold readScalar at h
  split at h
  case h_1 => cases h
  case h_2 | h_3 | h_4 =>
    obtain ⟨_, -, h⟩ := Result.map_eq_ok_iff.1 h
    cases h
  case h_5 =>
    split at h
    next =>
      obtain ⟨_, -, h⟩ := Result.map_eq_ok_iff.1 h
      cases h
    next => cases h

/-- A value that is a string is read as the body of one. -/
theorem readValue_eq_string {d : ℕ} {s r : List Char} {t : String}
    (h : readValue d s = .ok (.string t, r)) :
    ∃ r' cs, skipBlanks s = '"' :: r' ∧ readBody r' = .ok (cs, r) ∧ t = String.ofList cs := by
  unfold readValue at h
  split at h
  next r' hs =>
    obtain ⟨⟨cs, r''⟩, hbody, h⟩ := Result.map_eq_ok_iff.1 h
    cases h
    exact ⟨r', cs, hs, hbody, rfl⟩
  next =>
    cases d with
    | zero => cases h
    | succ d =>
      obtain ⟨_, -, h⟩ := Result.map_eq_ok_iff.1 h
      cases h
  next =>
    cases d with
    | zero => cases h
    | succ d =>
      obtain ⟨_, -, h⟩ := Result.map_eq_ok_iff.1 h
      cases h
  next => exact absurd h readScalar_ne_string

variable {α : Type}

/-- **To decode a text that holds a string is to decode the string.** -/
theorem decodeText_of_parse (decode : String → Except DecodeError α) {s t : String}
    (h : parse s = .ok (.string t)) : decodeText decode s = decode t := by
  obtain ⟨⟨v, r⟩, hvalue, h⟩ := Result.bind_eq_ok_iff.1 h
  simp only at h
  split at h
  next hr =>
    cases h
    obtain ⟨r', cs, hs, hbody, rfl⟩ := readValue_eq_string hvalue
    simp only [decodeText, hs, hbody]
    rw [Result.mapError_ok, Result.ok_bind]
    cases decode (String.ofList cs) with
    | error err => rfl
    | ok a => exact if_pos hr
  next => cases h

/-- **The text of a string holds that string.** -/
theorem parse_renderString (s : String) : parse (renderString s) = .ok (.string s) := by
  have hlist : (renderString s).toList = '"' :: (s.toList.flatMap escapeChar ++ ['"']) :=
    String.toList_ofList
  have hvalue : readValue 127 (renderString s).toList = .ok (.string s, []) := by
    rw [hlist, readValue]
    simp only [skipBlanks_quote, readBody_flatMap_escapeChar, Except.map, String.ofList_toList]
  rw [parse, hvalue]
  rfl

theorem decodeText_renderString (decode : String → Except DecodeError α) (s : String) :
    decodeText decode (renderString s) = decode s :=
  decodeText_of_parse decode (parse_renderString s)

/-! ## Nesting -/

/-- A bracket behind a bracket opens the first part. -/
theorem readValue_bracket_bracket (d : ℕ) (r : List Char) :
    readValue (d + 1) ('[' :: '[' :: r) =
      (readParts (readValue d) ']' (r.length + 1) ('[' :: r)).map fun p => (.array p.1, p.2) := rfl

/-- **Nesting has a limit.** One opening bracket more than the depth allows is malformed, whatever
follows it. -/
theorem readValue_replicate_bracket (d : ℕ) (r : List Char) :
    readValue d (List.replicate (d + 1) '[' ++ r) = .error .malformed := by
  induction d with
  | zero => rfl
  | succ d ih =>
    rw [List.replicate_succ, List.cons_append] at ih
    rw [List.replicate_succ, List.replicate_succ, List.cons_append, List.cons_append,
      readValue_bracket_bracket, readParts, ih]
    rfl

/-- The empty array within `n` others. -/
def nested : ℕ → Value
  | 0 => .array []
  | n + 1 => .array [nested n]

/-- As many brackets as the depth allows are read. -/
theorem readValue_nested (d : ℕ) (r : List Char) :
    readValue (d + 1) (List.replicate (d + 1) '[' ++ (List.replicate (d + 1) ']' ++ r)) =
      .ok (nested d, r) := by
  induction d generalizing r with
  | zero => rfl
  | succ d ih =>
    have hclose : List.replicate (d + 2) ']' ++ r = List.replicate (d + 1) ']' ++ ']' :: r := by
      rw [List.replicate_succ', List.append_assoc, List.singleton_append]
    have h := ih (']' :: r)
    rw [List.replicate_succ, List.cons_append] at h
    rw [hclose, List.replicate_succ, List.replicate_succ, List.cons_append, List.cons_append,
      readValue_bracket_bracket, readParts, h]
    rfl

/-- Texts are read to a depth of 127. -/
theorem parse_nested :
    parse (String.ofList (List.replicate 127 '[' ++ List.replicate 127 ']')) = .ok (nested 126) ∧
    ∀ r, parse (String.ofList (List.replicate 128 '[' ++ r)) = .error .malformed := by
  constructor
  · have h := readValue_nested 126 []
    rw [List.append_nil] at h
    rw [parse, String.toList_ofList, h]
    rfl
  · intro r
    rw [parse, String.toList_ofList, readValue_replicate_bracket]
    rfl

end Ed25519.Json
