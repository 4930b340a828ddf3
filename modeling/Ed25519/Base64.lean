import Ed25519.Bytes

/-!
# Base64 text

The standard alphabet, with padding: three bytes are four symbols, and the last group is filled up
with `=`. `decode` reads a text in UTF-8 and accepts canonical text alone: the padding must be there
and the unused bits of the last symbol must be zero, so that a byte string has one text.
-/

namespace Ed25519.Base64

/-- Why a text is not canonical base64. -/
inductive DecodeError where
  /-- A byte that cannot stand where it does. -/
  | invalidByte (byte : UInt8) (offset : Nat)
  /-- A last group of fewer than two symbols, which hold no byte. -/
  | invalidLength (length : Nat)
  /-- A last symbol with unused bits that are not zero. -/
  | invalidLastSymbol (byte : UInt8) (offset : Nat)
  /-- A last group that is not filled up to four places. -/
  | invalidPadding
  deriving DecidableEq

/-- The text of an error. -/
def DecodeError.message : DecodeError → String
  | .invalidByte b i => "Invalid symbol " ++ b.toNat.repr ++ ", offset " ++ i.repr ++ "."
  | .invalidLength n => "Invalid input length: " ++ n.repr
  | .invalidLastSymbol b i => "Invalid last symbol " ++ b.toNat.repr ++ ", offset " ++ i.repr ++ "."
  | .invalidPadding => "Invalid padding"

/-! ## Symbols -/

/-- The symbol of value `n < 64`. -/
def symbol (n : Nat) : Char :=
  Char.ofNat (if n < 26 then 65 + n else if n < 52 then 71 + n else if n < 62 then n - 4
    else if n = 62 then 43 else 47)

/-- The value of the symbol with ASCII code `c`. -/
def value? (c : UInt8) : Option Nat :=
  let n := c.toNat
  if 65 ≤ n ∧ n ≤ 90 then some (n - 65)
  else if 97 ≤ n ∧ n ≤ 122 then some (n - 71)
  else if 48 ≤ n ∧ n ≤ 57 then some (n + 4)
  else if n = 43 then some 62
  else if n = 47 then some 63
  else none

/-- The ASCII code of the padding sign `=`. -/
def padding : UInt8 := 61

/-! ## Writing -/

/-- The symbols of a byte string. -/
def symbols : Bytes → List Char
  | a :: b :: c :: r =>
    symbol (a.toNat / 4) :: symbol (a.toNat % 4 * 16 + b.toNat / 16) ::
      symbol (b.toNat % 16 * 4 + c.toNat / 64) :: symbol (c.toNat % 64) :: symbols r
  | [a, b] =>
    [symbol (a.toNat / 4), symbol (a.toNat % 4 * 16 + b.toNat / 16), symbol (b.toNat % 16 * 4), '=']
  | [a] => [symbol (a.toNat / 4), symbol (a.toNat % 4 * 16), '=', '=']
  | [] => []

/-- The base64 text of a byte string. -/
def encode (b : Bytes) : String := String.ofList (symbols b)

/-! ## Reading -/

/-- The value of the symbol at offset `i`. -/
def valueAt (c : UInt8) (i : Nat) : Except DecodeError Nat :=
  match value? c with
  | some n => .ok n
  | none => .error (.invalidByte c i)

/-- The bytes of four symbols. -/
def bytesOfValues (x y z w : Nat) : Bytes :=
  [UInt8.ofNat (x * 4 + y / 16), UInt8.ofNat (y % 16 * 16 + z / 4), UInt8.ofNat (z % 4 * 64 + w)]

/-- The values of the symbols that open the last group, whose next place is `place` at offset `i`,
and the number of padding signs behind them. Padding stands neither in the first two places nor
before a symbol. -/
def lastValues (place i : Nat) : Bytes → Except DecodeError (List Nat × Nat)
  | [] => .ok ([], 0)
  | c :: r =>
    if c = padding then
      if 2 ≤ place ∧ r.all (· = padding) then .ok ([], r.length + 1)
      else .error (.invalidByte padding i)
    else do
      let n ← valueAt c i
      let (ns, pad) ← lastValues (place + 1) (i + 1) r
      return (n :: ns, pad)

/-- Read the last group, which starts at offset `i` and has at most four places. -/
def decodeLast (i : Nat) (g : Bytes) : Except DecodeError Bytes := do
  let (ns, pad) ← lastValues 0 i g
  if ns.length < 2 ∧ g ≠ [] then throw (.invalidLength (i + ns.length))
  if (ns.length + pad) % 4 ≠ 0 then throw .invalidPadding
  match ns with
  | [x, y, z, w] => return bytesOfValues x y z w
  | [x, y, z] =>
    if z % 4 = 0 then return (bytesOfValues x y z 0).take 2
    else throw (.invalidLastSymbol (g.getD 2 0) (i + 2))
  | [x, y] =>
    if y % 16 = 0 then return (bytesOfValues x y 0 0).take 1
    else throw (.invalidLastSymbol (g.getD 1 0) (i + 1))
  | _ => return []

/-- Read groups of four symbols, the first of them at offset `i`, up to the last group. -/
def decodeGroups (i : Nat) : Bytes → Except DecodeError Bytes
  | a :: b :: c :: d :: e :: r => do
    let x ← valueAt a i
    let y ← valueAt b (i + 1)
    let z ← valueAt c (i + 2)
    let w ← valueAt d (i + 3)
    return bytesOfValues x y z w ++ (← decodeGroups (i + 4) (e :: r))
  | g => decodeLast i g

/-- Read the bytes of a base64 text. A last byte behind full groups that is neither a symbol nor
padding is reported before anything else. -/
def decode (t : Bytes) : Except DecodeError Bytes :=
  match t.getLast? with
  | some c =>
    if t.length % 4 = 1 ∧ c ≠ padding ∧ value? c = none then
      .error (.invalidByte c (t.length - 1))
    else decodeGroups 0 t
  | none => .ok []

end Ed25519.Base64
