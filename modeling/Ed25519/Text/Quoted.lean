import Ed25519.Text.Unprintable

/-!
# Quoted text

A quoted text stands between two delimiters. The delimiter and the backslash are written after a
backslash; line feed, return, tab and the null character have a letter of their own; every other
unprintable character is written by its code point.
-/

namespace Ed25519.Text

/-- The written form of a character between delimiters `d`. -/
def escape (d c : Char) : List Char :=
  if c = d || c = '\\' then ['\\', c]
  else if c = '\n' then ['\\', 'n']
  else if c = '\r' then ['\\', 'r']
  else if c = '\t' then ['\\', 't']
  else if c.toNat = 0 then ['\\', '0']
  else if isUnprintable c then
    ['\\', 'u', '\x7b'] ++ Nat.toDigits 16 c.toNat ++ ['\x7d']
  else [c]

/-- A text between delimiters `d`. -/
def quote (d : Char) (s : String) : String :=
  String.ofList (d :: s.toList.flatMap (escape d) ++ [d])

end Ed25519.Text
