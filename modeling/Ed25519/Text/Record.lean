import Ed25519.Text.Quoted

/-!
# Records in text

The written form of a record: its name, then its fields with their names in braces, or a single
nameless field in parentheses. Numbers are written in decimal, texts between double quotes.
-/

namespace Ed25519.Text

/-- The content of a field. -/
inductive FieldValue where
  | number (n : Nat)
  | text (s : String)

/-- The written form of a field's content. -/
def FieldValue.render : FieldValue → String
  | .number n => n.repr
  | .text s => quote '"' s

/-- A record with named fields. -/
def renderRecord (name : String) (fields : List (String × FieldValue)) : String :=
  name ++ " \x7b " ++ ", ".intercalate (fields.map fun f => f.1 ++ ": " ++ f.2.render) ++ " \x7d"

/-- A record with one nameless field. -/
def renderTuple (name : String) (field : FieldValue) : String :=
  name ++ "(" ++ field.render ++ ")"

end Ed25519.Text
