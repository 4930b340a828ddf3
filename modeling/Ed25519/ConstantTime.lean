import Ed25519.Bytes

/-!
# Comparison in constant time

Two byte strings are compared without a branch on their contents: `equalByte` is `1` or `0` by
arithmetic alone, and `choice` takes the conjunction over all positions. Only the lengths are
compared first.
-/

namespace Ed25519.ConstantTime

/-- `1` if `x` and `y` are the same byte, else `0`: of a byte that is not zero, the byte or its
negative has the top bit set. -/
def equalByte (x y : UInt8) : UInt8 :=
  let d := x ^^^ y
  ((d ||| (0 - d)) >>> 7) ^^^ 1

/-- The conjunction of `equalByte` over the positions of two byte strings of one length. -/
def accumulate (a b : Bytes) : UInt8 :=
  (a.zip b).foldl (fun acc xy => acc &&& equalByte xy.1 xy.2) 1

/-- `1` if two byte strings are the same, else `0`. -/
def choice (a b : Bytes) : UInt8 :=
  if a.length = b.length then accumulate a b else 0

/-- Whether two byte strings are the same. -/
def equal (a b : Bytes) : Bool := choice a b = 1

end Ed25519.ConstantTime
