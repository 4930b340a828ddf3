import Ed25519.Json.Numeral

/-!
# Values in JSON texts

`parse` reads a text that holds one value. Arrays and objects are read to a depth of 127: the
bracket that opens one within 127 others is malformed. `readShape` reads as much of a value as tells
its shape.
-/

namespace Ed25519.Json

/-- The remaining text without the blanks it starts with. -/
def skipBlanks (s : List Char) : List Char :=
  s.dropWhile fun c => c = ' ' || c = '\t' || c = '\n' || c = '\r'

/-- Read the given characters. -/
def readWord : List Char → List Char → Except TextError (List Char)
  | [], r => .ok r
  | _ :: _, [] => .error .unexpectedEnd
  | a :: w, c :: r => if a = c then readWord w r else .error .malformed

/-- Read a word or a number. -/
def readScalar (s : List Char) : Except TextError (Value × List Char) :=
  match s with
  | [] => .error .unexpectedEnd
  | 'n' :: r => (readWord ['u', 'l', 'l'] r).map fun r => (.null, r)
  | 't' :: r => (readWord ['r', 'u', 'e'] r).map fun r => (.boolean true, r)
  | 'f' :: r => (readWord ['a', 'l', 's', 'e'] r).map fun r => (.boolean false, r)
  | c :: _ =>
    if c = '-' ∨ c.isDigit then (readNumber s).map fun p => (.number p.1, p.2)
    else .error .malformed

/-- The shape of the value that a text without leading blanks starts with. A bracket or a brace is
enough to tell. -/
def readShape (s : List Char) : Except TextError Shape :=
  match s with
  | '[' :: _ => .ok .array
  | '\x7b' :: _ => .ok .object
  | '"' :: r => (readBody r).map fun p => .string (String.ofList p.1)
  | _ => (readScalar s).map fun p => p.1.shape

/-- Read the name of a field and the colon behind it. -/
def readName (s : List Char) : Except TextError (String × List Char) :=
  match skipBlanks s with
  | '"' :: r => do
    let (name, r) ← readBody r
    match skipBlanks r with
    | ':' :: r => return (String.ofList name, r)
    | [] => throw .unexpectedEnd
    | _ => throw .malformed
  | [] => .error .unexpectedEnd
  | _ => .error .malformed

variable {α : Type}

/-- Read at least one and at most `n` parts, with a comma between any two of them, and the character
`close` behind the last. -/
def readParts (read : List Char → Except TextError (α × List Char)) (close : Char) (n : Nat)
    (s : List Char) : Except TextError (List α × List Char) :=
  match n with
  | 0 => .error .malformed
  | n + 1 => do
    let (a, r) ← read s
    match skipBlanks r with
    | [] => throw .unexpectedEnd
    | c :: r =>
      if c = close then return ([a], r)
      else if c = ',' then
        let (as, r) ← readParts read close n r
        return (a :: as, r)
      else throw .malformed

/-- Read the parts of an array or an object whose opening bracket is passed. There are at most as
many of them as the text is long. -/
def readSequence (read : List Char → Except TextError (α × List Char)) (close : Char)
    (s : List Char) : Except TextError (List α × List Char) :=
  match skipBlanks s with
  | [] => .error .unexpectedEnd
  | c :: r => if c = close then .ok ([], r) else readParts read close s.length s

/-- Read a field: its name, and its value by `read`. -/
def readField (read : List Char → Except TextError (Value × List Char)) (s : List Char) :
    Except TextError ((String × Value) × List Char) := do
  let (name, r) ← readName s
  let (v, r) ← read r
  return ((name, v), r)

/-- Read a value in which arrays and objects are nested at most `depth` deep. -/
def readValue (depth : Nat) (s : List Char) : Except TextError (Value × List Char) :=
  match skipBlanks s with
  | '"' :: r => (readBody r).map fun p => (.string (String.ofList p.1), p.2)
  | '[' :: r =>
    match depth with
    | 0 => .error .malformed
    | d + 1 => (readSequence (readValue d) ']' r).map fun p => (.array p.1, p.2)
  | '\x7b' :: r =>
    match depth with
    | 0 => .error .malformed
    | d + 1 => (readSequence (readField (readValue d)) '\x7d' r).map fun p => (.object p.1, p.2)
  | r => readScalar r

/-- Read a text that holds one value and blanks around it. -/
def parse (t : String) : Except TextError Value := do
  let (v, r) ← readValue 127 t.toList
  if skipBlanks r = [] then return v else throw .malformed

end Ed25519.Json
