import Ed25519.Bytes
import Ed25519.Text.Quoted

/-!
# Hexadecimal text

Two digits per byte, the high one first. `encode` writes lower-case digits; `decode` reads digits
of either case from a text in UTF-8 and reports the first byte that is none, by its offset.
-/

namespace Ed25519.Hex

/-- Why a text is not hexadecimal. -/
inductive DecodeError where
  | oddLength
  | invalidDigit (byte : UInt8) (offset : Nat)
  deriving DecidableEq

/-- The text of an error. A byte is shown as the character with that code point. -/
def DecodeError.message : DecodeError → String
  | .oddLength => "Odd number of digits"
  | .invalidDigit b i =>
    "Invalid character " ++ Text.quote '\'' (String.singleton (Char.ofNat b.toNat)) ++
      " at position " ++ i.repr

/-- The lower-case digit of value `n < 16`. -/
def digit (n : Nat) : Char := Char.ofNat (if n < 10 then 48 + n else 87 + n)

/-- The value of the digit with ASCII code `c`. -/
def value? (c : UInt8) : Option Nat :=
  let n := c.toNat
  if 48 ≤ n ∧ n ≤ 57 then some (n - 48)
  else if 97 ≤ n ∧ n ≤ 102 then some (n - 87)
  else if 65 ≤ n ∧ n ≤ 70 then some (n - 55)
  else none

/-- The digits of a byte string. -/
def digits (b : Bytes) : List Char :=
  b.flatMap fun x => [digit (x.toNat / 16), digit (x.toNat % 16)]

/-- The hexadecimal text of a byte string. -/
def encode (b : Bytes) : String := String.ofList (digits b)

/-- Read pairs of digits, the first of them at offset `i`. -/
def decodePairs (i : Nat) : Bytes → Except DecodeError Bytes
  | h :: l :: r =>
    match value? h, value? l with
    | none, _ => .error (.invalidDigit h i)
    | some _, none => .error (.invalidDigit l (i + 1))
    | some x, some y => (decodePairs (i + 2) r).map (UInt8.ofNat (16 * x + y) :: ·)
  | _ => .ok []

/-- Read the bytes of a hexadecimal text. Its length is checked before its digits. -/
def decode (t : Bytes) : Except DecodeError Bytes :=
  if t.length % 2 = 1 then .error .oddLength else decodePairs 0 t

end Ed25519.Hex
