import Ed25519.Decimal.Shortest
import Ed25519.Text.Quoted

/-!
# JSON values

A number is an integer of 64 bits, or else a floating-point number. The fields of an object keep
the order in which they are written; of fields with one name the last one counts.
-/

namespace Ed25519.Json

/-- A JSON number. -/
inductive Number where
  | integer (n : Int)
  | float (x : Float)

/-- A JSON value. -/
inductive Value where
  | null
  | boolean (b : Bool)
  | number (n : Number)
  | string (s : String)
  | array (items : List Value)
  | object (fields : List (String × Value))

/-- The field of an object with a given name. -/
def lookup (fields : List (String × Value)) (name : String) : Option Value :=
  fields.reverse.lookup name

/-! ## The text of a number -/

/-- The exponent of a power of ten, with its sign. -/
def renderExponent (e : Int) : List Char :=
  if e < 0 then e.repr.toList else '+' :: e.repr.toList

/-- A floating-point number in decimal: positional from `1e-5` on and below `1e16`, with a digit
after the point, and else by the power of ten of its first digit, whose sign is written. -/
def renderFloat (x : Float) : String :=
  let sign := if x.toBits >>> 63 = 0 then "" else "-"
  let b := Decimal.Binary.ofFloat x
  sign ++ if b.significand = 0 then "0.0" else
    let d := Decimal.shortest b
    let ds := Nat.toDigits 10 d.value
    let point := ds.length + d.exponent
    let zeros (n : Int) := List.replicate n.toNat '0'
    String.ofList <|
      if 0 ≤ d.exponent ∧ point ≤ 16 then ds ++ zeros d.exponent ++ ['.', '0']
      else if 0 < point ∧ point ≤ 16 then ds.take point.toNat ++ '.' :: ds.drop point.toNat
      else if -5 < point ∧ point ≤ 0 then '0' :: '.' :: zeros (-point) ++ ds
      else ds.take 1 ++ (if ds.length = 1 then [] else '.' :: ds.drop 1) ++
        'e' :: renderExponent (point - 1)

/-- A number in decimal. -/
def Number.render : Number → String
  | integer n => n.repr
  | float x => renderFloat x

/-! ## Shapes -/

/-- A value without the contents of arrays and objects. -/
inductive Shape where
  | null
  | boolean (b : Bool)
  | number (n : Number)
  | string (s : String)
  | array
  | object

/-- The shape of a value. -/
def Value.shape : Value → Shape
  | null => .null
  | boolean b => .boolean b
  | number n => .number n
  | string s => .string s
  | array _ => .array
  | object _ => .object

/-- A shape in words. -/
def Shape.describe : Shape → String
  | null => "null"
  | boolean b => "boolean `" ++ (if b then "true" else "false") ++ "`"
  | number (.integer n) => "integer `" ++ n.repr ++ "`"
  | number (.float x) => "floating point `" ++ renderFloat x ++ "`"
  | string s => "string " ++ Text.quote '"' s
  | array => "sequence"
  | object => "map"

end Ed25519.Json
