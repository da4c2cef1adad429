import TextTemplate.Numeral
import TextTemplate.Data.Table

set_option autoImplicit false

/-! # Expressions

An expression is an operand followed by a chain of operators, such as `$user.name|default('?')`. The operand
may be missing: `count($list)` starts with an operator, whose first argument takes the place of the operand.
A bare word is an operand of its own; what it means is up to the tag it is passed to. -/

namespace TextTemplate

/-! ## Syntax trees -/

mutual

/-- An operand and the operators applied to it in order. -/
structure Expression where
  operand : Operand
  operators : List Operator

/-- The name of an operator and its arguments. -/
structure Operator where
  name : String
  arguments : List Expression

/-- What the operators of an expression start from. -/
inductive Operand
  /-- A quoted text, escapes removed. -/
  | text (value : String)
  | number (value : Number)
  /-- An empty argument slot, as in `f(,1)`. -/
  | null
  | reference (target : Reference)
  | word (text : String)
  /-- No operand: the expression starts with an operator call. -/
  | call

/-- A variable and the steps taken into its value. The namespace is what the template writes before the
name, joined by colons, with the default namespace of the template in front. -/
structure Reference where
  namespaceName : Option String
  name : String
  attributes : List Attribute

/-- A step into a value. -/
inductive Attribute
  /-- `.name` or `[name]` -/
  | key (name : String)
  /-- `.3` or `[3]` -/
  | index (digits : String)
  /-- `[$key]` or `.$key`: the key is the value of an expression. -/
  | computed (expression : Expression)

end

namespace Expression

/-- An operand without operators. -/
def ofOperand (operand : Operand) : Expression := ⟨operand, []⟩

/-- The expression of an empty argument slot. -/
def null : Expression := ofOperand .null

instance : Inhabited Expression := ⟨null⟩

end Expression

/-! ## Equality

Two expressions are the same if they are written alike; the order of tag arguments and the sign of a real
zero do not count. -/

mutual

/-- Whether two expressions are the same. -/
def Expression.same : Expression → Expression → Bool
  | ⟨operand, operators⟩, ⟨operand', operators'⟩ =>
    operand.same operand' && Operator.sameAll operators operators'

/-- Whether two chains of operators are the same. -/
def Operator.sameAll : List Operator → List Operator → Bool
  | [], [] => true
  | ⟨name, arguments⟩ :: rest, ⟨name', arguments'⟩ :: rest' =>
    name == name' && Expression.sameAll arguments arguments' && Operator.sameAll rest rest'
  | _, _ => false

/-- Whether two lists of expressions are the same. -/
def Expression.sameAll : List Expression → List Expression → Bool
  | [], [] => true
  | e :: rest, e' :: rest' => e.same e' && Expression.sameAll rest rest'
  | _, _ => false

/-- Whether two operands are the same. -/
def Operand.same : Operand → Operand → Bool
  | .text value, .text value' => value == value'
  | .number value, .number value' => value == value'
  | .null, .null => true
  | .reference ⟨space, name, attributes⟩, .reference ⟨space', name', attributes'⟩ =>
    space == space' && name == name' && Attribute.sameAll attributes attributes'
  | .word text, .word text' => text == text'
  | .call, .call => true
  | _, _ => false

/-- Whether two lists of steps are the same. -/
def Attribute.sameAll : List Attribute → List Attribute → Bool
  | [], [] => true
  | .key name :: rest, .key name' :: rest' => name == name' && Attribute.sameAll rest rest'
  | .index digits :: rest, .index digits' :: rest' =>
    digits == digits' && Attribute.sameAll rest rest'
  | .computed e :: rest, .computed e' :: rest' => e.same e' && Attribute.sameAll rest rest'
  | _, _ => false

end

/-- The arguments of a tag, in order of first mention. -/
abbrev Arguments := Table String Expression

/-- Whether two tags have the same arguments, in whatever order. -/
def Arguments.same (arguments arguments' : Arguments) : Bool :=
  arguments.size == arguments'.size &&
    arguments.entries.all fun (name, e) => (arguments'.get? name).any e.same

end TextTemplate
