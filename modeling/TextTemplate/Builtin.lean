import TextTemplate.Text.Case
import TextTemplate.Value

set_option autoImplicit false

/-! # Built-in operators

Six operators come with every standard engine. `Builtin.apply` is what an operator makes of a value and its evaluated
arguments; how many arguments there may be is `Builtin.arity`. -/

namespace TextTemplate

/-- The built-in operators. -/
inductive Builtin
  /-- Upper case. -/
  | upcase
  /-- Lower case. -/
  | downcase
  /-- The characters of a text or the items of an array in reverse. -/
  | reverse
  /-- The value itself. -/
  | identity
  /-- The number of items, entries or characters. -/
  | count
  /-- A replacement for an empty value. -/
  | fallback
deriving BEq, DecidableEq, Repr

/-- How many arguments an operator takes. -/
inductive Arity
  /-- None, except that a call that starts an expression passes the value as an argument. -/
  | unary
  /-- At least so many. -/
  | atLeast (least : Nat)
deriving BEq, DecidableEq, Repr

namespace Arity

/-- Whether `count` arguments are right. -/
def allows (arity : Arity) (count : Nat) : Bool :=
  match arity with
  | unary => count = 0
  | atLeast least => least ≤ count

/-- The wording of an arity. -/
def text : Arity → String
  | unary => "0"
  | atLeast least => s!"at least {least}"

end Arity

namespace Builtin

/-- All built-in operators. -/
def all : List Builtin := [upcase, downcase, reverse, identity, count, fallback]

/-- The name of an operator. -/
def name : Builtin → String
  | upcase => "upcase"
  | downcase => "downcase"
  | reverse => "reverse"
  | identity => "identity"
  | count => "count"
  | fallback => "default"

/-- The operator of a name. -/
def ofName? (name : String) : Option Builtin := all.find? fun builtin => builtin.name = name

/-- How many arguments an operator takes. -/
def arity : Builtin → Arity
  | fallback => .atLeast 1
  | _ => .unary

/-! ## Meaning -/

/-- Applies `f` to the text of a value; nothing stays nothing. -/
def mapText (f : String → String) (value : Value) : Value :=
  match value with
  | .null => .null
  | other => .text (f other.display)

/-- The number of items, entries or characters of a value; any other value is one, and nothing is none. -/
def countOf : Value → Nat
  | .null => 0
  | .array items => items.length
  | .map entries => entries.size
  | .text text => text.length
  | _ => 1

/-- The value, or the first argument that is not empty if the value is; if all are, the last one. -/
def fallbackOf (value : Value) (arguments : List Value) : Value :=
  if !value.isEmpty then value
  else
    match arguments.find? fun argument => !argument.isEmpty with
    | some argument => argument
    | none => arguments.getLastD value

/-- What an operator makes of a value. -/
def apply (builtin : Builtin) (value : Value) (arguments : List Value) : Value :=
  match builtin with
  | upcase => mapText Text.upcase value
  | downcase => mapText Text.downcase value
  | reverse =>
    match value with
    | .array items => .array items.reverse
    | other => mapText (fun text => String.ofList text.toList.reverse) other
  | identity => value
  | count => .integer (Int64.ofNat (min (countOf value) Int64.maxValue.toNatClampNeg))
  | fallback => fallbackOf value arguments

/-- An operator is found under its own name. -/
theorem ofName?_name (builtin : Builtin) : ofName? builtin.name = some builtin := by
  cases builtin <;> decide

end Builtin

end TextTemplate
