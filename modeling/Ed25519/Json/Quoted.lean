/-!
# Strings in JSON texts

Readers take the characters of a text and return what they read with the characters that remain.
They fail for two reasons: the text ends too early, or a character cannot stand where it does.
`readBody` reads a string whose opening quote is passed. A character is written as itself, by a
letter after a backslash, or by the code units of its UTF-16 form.
-/

namespace Ed25519.Json

/-- Why a text is not JSON. -/
inductive TextError where
  | unexpectedEnd
  | malformed
  deriving DecidableEq

/-- The value of a hexadecimal digit. -/
def hexValue? (c : Char) : Option Nat :=
  let n := c.toNat
  if 48 ≤ n ∧ n ≤ 57 then some (n - 48)
  else if 97 ≤ n ∧ n ≤ 102 then some (n - 87)
  else if 65 ≤ n ∧ n ≤ 70 then some (n - 55)
  else none

/-- Read a code unit: four hexadecimal digits. A text with fewer than four bytes left ends too early,
whatever they are. -/
def readUnit : List Char → Except TextError (Nat × List Char)
  | a :: b :: c :: d :: r =>
    match hexValue? a, hexValue? b, hexValue? c, hexValue? d with
    | some x, some y, some z, some w => .ok (((x * 16 + y) * 16 + z) * 16 + w, r)
    | _, _, _, _ => .error .malformed
  | s => if (String.ofList s).utf8ByteSize < 4 then .error .unexpectedEnd else .error .malformed

/-- The low unit of a pair of surrogates, after the high one. -/
def readLowUnit : List Char → Except TextError (Nat × List Char)
  | [] | ['\\'] => .error .unexpectedEnd
  | '\\' :: 'u' :: r =>
    match readUnit r with
    | .ok (u, r') => if 0xdc00 ≤ u ∧ u < 0xe000 then .ok (u, r') else .error .malformed
    | .error e => .error e
  | _ => .error .malformed

/-- Read a character written by one code unit, or by two where it takes a pair of surrogates. -/
def readUnicode (s : List Char) : Except TextError (Char × List Char) :=
  match readUnit s with
  | .error e => .error e
  | .ok (u, r) =>
    if 0xdc00 ≤ u ∧ u < 0xe000 then .error .malformed
    else if 0xd800 ≤ u ∧ u < 0xdc00 then
      match readLowUnit r with
      | .ok (l, r') => .ok (Char.ofNat (0x10000 + (u - 0xd800) * 0x400 + (l - 0xdc00)), r')
      | .error e => .error e
    else .ok (Char.ofNat u, r)

/-- The character that a letter after a backslash stands for. -/
def escaped? (c : Char) : Option Char :=
  if c = '"' ∨ c = '\\' ∨ c = '/' then some c
  else if c = 'b' then some '\x08'
  else if c = 'f' then some '\x0c'
  else if c = 'n' then some '\n'
  else if c = 'r' then some '\r'
  else if c = 't' then some '\t'
  else none

/-- Read an escaped character whose backslash is passed. -/
def readEscape : List Char → Except TextError (Char × List Char)
  | [] => .error .unexpectedEnd
  | c :: r =>
    if c = 'u' then readUnicode r
    else match escaped? c with
      | some d => .ok (d, r)
      | none => .error .malformed

theorem length_of_readUnit {s r : List Char} {u : Nat} (h : readUnit s = .ok (u, r)) :
    r.length < s.length := by
  unfold readUnit at h
  split at h
  · split at h
    · cases h; simp only [List.length_cons]; omega
    · cases h
  · split at h <;> cases h

theorem length_of_readLowUnit {s r : List Char} {u : Nat} (h : readLowUnit s = .ok (u, r)) :
    r.length < s.length := by
  unfold readLowUnit at h
  split at h
  · cases h
  · cases h
  · split at h
    next hu =>
      split at h
      · cases h
        have := length_of_readUnit hu
        simp only [List.length_cons]; omega
      · cases h
    · cases h
  · cases h

theorem length_of_readUnicode {s r : List Char} {c : Char} (h : readUnicode s = .ok (c, r)) :
    r.length < s.length := by
  unfold readUnicode at h
  split at h
  · cases h
  next hu =>
    have h1 := length_of_readUnit hu
    split at h
    · cases h
    · split at h
      · split at h
        next hl =>
          simp only [Except.ok.injEq, Prod.mk.injEq] at h
          exact h.2 ▸ Nat.lt_trans (length_of_readLowUnit hl) h1
        · cases h
      · simp only [Except.ok.injEq, Prod.mk.injEq] at h
        exact h.2 ▸ h1

theorem length_of_readEscape {s r : List Char} {c : Char} (h : readEscape s = .ok (c, r)) :
    r.length < s.length := by
  unfold readEscape at h
  split at h
  · cases h
  · split at h
    · have := length_of_readUnicode h
      simp only [List.length_cons]; omega
    · split at h
      · cases h; simp
      · cases h

/-- Read the rest of a string whose opening quote is passed. -/
def readBody (s : List Char) : Except TextError (List Char × List Char) :=
  match s with
  | [] => .error .unexpectedEnd
  | '"' :: r => .ok ([], r)
  | '\\' :: r =>
    match _h : readEscape r with
    | .error e => .error e
    | .ok (c, r') => (readBody r').map fun p => (c :: p.1, p.2)
  | c :: r =>
    if c.toNat < 0x20 then .error .malformed
    else (readBody r).map fun p => (c :: p.1, p.2)
termination_by s.length
decreasing_by
  · have := length_of_readEscape _h
    simp only [List.length_cons]; omega
  · simp

end Ed25519.Json
