import TextTemplate.Data.Table
import TextTemplate.Numeral

set_option autoImplicit false

/-! # Values

What variables hold and expressions evaluate to: nothing, scalars, arrays, maps and host objects. An object is
something that the host of the engine puts at the disposal of templates. It has an identity, which is all that
counts when two objects are compared, a type name, and as much access to its attributes as it grants; it may also
name a template that shows it.

Values are compared by `Value.same`: two maps are equal if they bind the same keys to equal values, in whatever
order, two reals as the arithmetic standard has it, and values of different kinds never. -/

namespace TextTemplate

/-! ## Objects -/

/-- The access that an object grants to its attributes. -/
inductive Access (α : Type)
  /-- None at all. -/
  | denied
  /-- Every key is an attribute without a value. -/
  | hollow
  /-- The attributes of a record. -/
  | record (fields : Table String α)

/-- The template that shows an object, and the variable the object is bound to while it is rendered. -/
structure ObjectTemplate where
  uri : String
  variableName : String
deriving BEq, DecidableEq, Repr

/-- A host object. -/
structure HostObject (α : Type) where
  id : Nat
  typeName : String
  access : Access α
  template : Option ObjectTemplate

/-! ## Values -/

/-- A value. -/
inductive Value
  | null
  | bool (value : Bool)
  | integer (value : Int64)
  | real (value : Float)
  | text (value : String)
  | array (items : List Value)
  | map (entries : Table String Value)
  | object (value : HostObject Value)

namespace Value

instance : Inhabited Value := ⟨null⟩

/-- The name of the kind of a value. -/
def typeName : Value → String
  | null => "null"
  | bool _ => "bool"
  | integer _ => "integer"
  | real _ => "real"
  | text _ => "text"
  | array _ => "array"
  | map _ => "map"
  | object _ => "object"

/-- Whether the value is nothing. -/
def isNull : Value → Bool
  | null => true
  | _ => false

/-- Whether the value is nothing or the empty text. -/
def isEmpty : Value → Bool
  | null => true
  | text value => value = ""
  | _ => false

/-- The text that a text value holds. -/
def asText? : Value → Option String
  | text value => some value
  | _ => none

/-- The value as it appears in output. -/
def display : Value → String
  | null => ""
  | bool value => if value then "1" else ""
  | integer value => toString value.toInt
  | real value => Decimal.write .plain value
  | text value => value
  | array _ => "Array"
  | map _ => "Map"
  | object value => s!"Object({value.typeName})"

/-- The value of a number. -/
def ofNumber : Number → Value
  | .integer value => integer value
  | .real value => real value

/-! ## Equality -/

mutual

/-- Whether two values are equal. -/
def same : Value → Value → Bool
  | null, null => true
  | bool a, bool b => a == b
  | integer a, integer b => a == b
  | real a, real b => a == b
  | text a, text b => a == b
  | array a, array b => sameItems a b
  | map ⟨a⟩, map ⟨b⟩ => a.length == b.length && sameEntries a b
  | object a, object b => a.id == b.id
  | _, _ => false

/-- Whether two lists hold equal values in the same order. -/
def sameItems : List Value → List Value → Bool
  | [], [] => true
  | a :: as, b :: bs => a.same b && sameItems as bs
  | _, _ => false

/-- Whether each entry has an equal value under the same key in `others`. -/
def sameEntries : List (String × Value) → List (String × Value) → Bool
  | [], _ => true
  | (key, a) :: rest, others =>
    (match Table.find? key others with
      | some b => a.same b
      | none => false) && sameEntries rest others

end

instance : BEq Value := ⟨same⟩

end Value

end TextTemplate
