import Ed25519.Json.Quoted
import Ed25519.Json.Value

/-!
# Numbers in JSON texts

`readNumber` reads the parts of a number (`Numeral`) and takes its value. An integer of 64 bits is
kept; every other number becomes a floating-point number, by scaling its leading digits with a power
of ten.
-/

namespace Ed25519.Json

/-- The greatest integer that a number can hold. -/
def maxInteger : Nat := (1 <<< 64) - 1

/-- Read digits behind those of `n` as long as the number does not exceed `maxInteger`, and return
the digits that remain. -/
def absorb (n : Nat) : List Char → Nat × List Char
  | [] => (n, [])
  | d :: ds =>
    let m := 10 * n + (d.toNat - 48)
    if m ≤ maxInteger then absorb m ds else (n, d :: ds)

/-- The number `x * 10 ^ e`, if it is not too great. Where the power of ten is too small to be a
floating-point number, it is divided off in parts. -/
def scale (x : Float) (e : Int) : Option Float :=
  if 0 ≤ e then
    if 308 < e then if x == 0.0 then some x else none
    else
      let y := x * Float.ofScientific 1 false e.toNat
      if y.isInf then none else some y
  else if h : e < -308 then
    if x == 0.0 then some x else scale (x / 1e308) (e + 308)
  else some (x / Float.ofScientific 1 false (-e).toNat)
termination_by (-e).toNat
decreasing_by omega

/-- The parts of a number: its integer digits, the digits after the point, and the sign and the
digits of its exponent. -/
structure Numeral where
  negative : Bool
  whole : List Char
  fraction : List Char
  exponent : Option (Bool × List Char)

/-- The value of a numeral, unless it is too great. A numeral without a point and an exponent is an
integer if it has 64 bits. Of the digits, those are used that make a number up to `maxInteger`. -/
def Numeral.value? (n : Numeral) : Option Number :=
  let (w, wholeRest) := absorb 0 n.whole
  let (f, fractionRest) := absorb w n.fraction
  let shift : Int := wholeRest.length - (n.fraction.length - fractionRest.length : Nat)
  let signed (x : Float) : Number := .float (if n.negative then -x else x)
  match n.exponent with
  | none =>
    if wholeRest ≠ [] ∨ n.fraction ≠ [] then (scale (Float.ofNat f) shift).map signed
    else if n.negative then
      if w = 0 ∨ 1 <<< 63 < w then some (signed (Float.ofNat w)) else some (.integer (-(w : Int)))
    else some (.integer w)
  | some (negative, ds) =>
    let (e, rest) := absorb 0 ds
    if rest ≠ [] ∨ 1 <<< 31 ≤ e then
      if f ≠ 0 ∧ !negative then none else some (signed 0.0)
    else (scale (Float.ofNat f) (if negative then shift - e else shift + e)).map signed

/-- The digits that a text starts with, of which there must be one, and what follows them. -/
def readDigits (s : List Char) : Except TextError (List Char × List Char) :=
  match s with
  | [] => .error .unexpectedEnd
  | c :: _ =>
    if c.isDigit then .ok (s.takeWhile Char.isDigit, s.dropWhile Char.isDigit)
    else .error .malformed

/-- Read the integer digits of a number. A zero at the front stands alone. -/
def readWhole (s : List Char) : Except TextError (List Char × List Char) :=
  match s with
  | '0' :: c :: r => if c.isDigit then .error .malformed else .ok (['0'], c :: r)
  | _ => readDigits s

/-- Read the digits after the point, if there is a point. -/
def readFraction (s : List Char) : Except TextError (List Char × List Char) :=
  match s with
  | '.' :: r => readDigits r
  | _ => .ok ([], s)

/-- Read the exponent, if there is one: whether it is negative, and its digits. -/
def readExponent (s : List Char) : Except TextError (Option (Bool × List Char) × List Char) :=
  match s with
  | c :: r =>
    if c = 'e' ∨ c = 'E' then
      let (negative, r) := match r with
        | '-' :: r => (true, r)
        | '+' :: r => (false, r)
        | r => (false, r)
      (readDigits r).map fun p => (some (negative, p.1), p.2)
    else .ok (none, s)
  | [] => .ok (none, s)

/-- Read a number. -/
def readNumber (s : List Char) : Except TextError (Number × List Char) := do
  let (negative, s) := match s with
    | '-' :: r => (true, r)
    | r => (false, r)
  let (whole, s) ← readWhole s
  let (fraction, s) ← readFraction s
  let (exponent, s) ← readExponent s
  match Numeral.value? ⟨negative, whole, fraction, exponent⟩ with
  | some n => return (n, s)
  | none => throw .malformed

end Ed25519.Json
