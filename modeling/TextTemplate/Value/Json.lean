import TextTemplate.Value

set_option autoImplicit false

/-! # Values as JSON

The compact JSON text of a value, without spaces. Texts, integers, truth values, arrays and nothing have a form of
their own in JSON; a real is wrapped as `real`, the entries of a map as `map`, which keeps their order, and an object
as `object`, by its type name only. -/

namespace TextTemplate.Value

/-- A hexadecimal number of four digits. -/
def hex4 (n : Nat) : List Char :=
  let digits := Nat.toDigits 16 n
  List.replicate (4 - digits.length) '0' ++ digits

/-- How a character stands in a JSON string. -/
def jsonChar (c : Char) : List Char :=
  match c with
  | '"' => ['\\', '"']
  | '\\' => ['\\', '\\']
  | '\x08' => ['\\', 'b']
  | '\x0c' => ['\\', 'f']
  | '\n' => ['\\', 'n']
  | '\r' => ['\\', 'r']
  | '\t' => ['\\', 't']
  | _ => if c.toNat < 0x20 then '\\' :: 'u' :: hex4 c.toNat else [c]

/-- A text as a JSON string. -/
def jsonString (text : String) : String :=
  String.ofList ('"' :: text.toList.flatMap jsonChar ++ ['"'])

/-- A JSON object with one member. -/
def jsonMember (name content : String) : String :=
  "\x7b" ++ jsonString name ++ ":" ++ content ++ "\x7d"

/-- A JSON array. -/
def jsonArray (items : List String) : String := "[" ++ String.intercalate "," items ++ "]"

mutual

/-- The JSON text of a value. -/
def json : Value → String
  | null => "null"
  | bool value => if value then "true" else "false"
  | integer value => toString value.toInt
  | real value => jsonMember "real" (jsonString (Decimal.write .plain value))
  | text value => jsonString value
  | array items => jsonArray (jsonItems items)
  | map ⟨entries⟩ => jsonMember "map" (jsonArray (jsonEntries entries))
  | object value => jsonMember "object" (jsonString value.typeName)

/-- The JSON texts of values. -/
def jsonItems : List Value → List String
  | [] => []
  | item :: rest => item.json :: jsonItems rest

/-- The JSON texts of the entries of a map. -/
def jsonEntries : List (String × Value) → List String
  | [] => []
  | (key, value) :: rest => jsonArray [jsonString key, value.json] :: jsonEntries rest

end

end TextTemplate.Value
