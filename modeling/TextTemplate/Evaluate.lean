import TextTemplate.Engine
import TextTemplate.Value.Json

set_option autoImplicit false

/-! # Evaluating expressions

An expression is evaluated in a namespace, and evaluation always gives a value: what cannot be found is recorded and
taken as nothing. The operators of an expression receive its value one after another. Their arguments are handed over
unevaluated, as actions, because an operator decides which of them it evaluates and when. -/

namespace TextTemplate

/-- An action on an engine: what evaluating or rendering something does. -/
abbrev Render := StateM Engine

/-- Records a diagnostic. -/
def record (diagnostic : Diagnostic) : Render Unit := modify fun engine => engine.note diagnostic

/-- The namespace that a reference leads to: what it says itself goes below the current namespace. -/
def resolveSpace (space : String) (explicit : Option String) : String :=
  match explicit with
  | none => space
  | some explicit => if space = "" then explicit else s!"{space}:{explicit}"

/-! ## Operators -/

/-- The handler of an operator; if there is none, that is recorded. -/
def operatorHandler? (name : String) : Render (Option OperatorHandler) := do
  let engine ← get
  let (result, registry) := engine.registry.operator name
  set { engine with registry }
  match result with
  | .ok handler => pure (some handler.handler)
  | .error problem =>
    record (.ofRuntime problem)
    pure none

/-- Evaluates arguments from left to right. -/
def evaluateAll : List (Render Value) → Render (List Value)
  | [] => pure []
  | argument :: rest => do
    let value ← argument
    let values ← evaluateAll rest
    pure (value :: values)

/-- The type and the text of a value. -/
def describe (value : Value) : String := value.typeName ++ ":" ++ value.display

/-- Applies a built-in operator. A wrong number of arguments leaves the value as it is. A unary operator that receives
nothing takes a single argument as its value. -/
def applyBuiltin (builtin : Builtin) (value : Value) (arguments : List (Render Value)) : Render Value := do
  -- the call `upcase(x)` starts with nothing and has its operand as an argument
  let (value, arguments) ←
    match builtin.arity, arguments with
    | .unary, [argument] =>
      if value.isNull then do
        let value ← argument
        pure (value, [])
      else pure (value, arguments)
    | _, _ => pure (value, arguments)
  if builtin.arity.allows arguments.length then
    let arguments ← evaluateAll arguments
    pure (builtin.apply value arguments)
  else
    record (.warning builtin.name
      (.argumentCountMismatch builtin.name builtin.arity.text arguments.length))
    pure value

/-- Carries out what the handler of the operator `name` does. -/
def applyAction (space name : String) (action : OperatorAction) (value : Value)
    (arguments : List (Render Value)) : Render Value :=
  match action with
  | .builtin =>
    match Builtin.ofName? name with
    | some builtin => applyBuiltin builtin value arguments
    | none => do
      record (.warning name (.unregisteredOperator name))
      pure value
  | .suffix text => pure (.text (value.display ++ text))
  | .shout => pure (.text (Text.upcase (value.display ++ "!")))
  | .describe => do
    let values ← evaluateAll arguments
    pure (.text (name ++ "<" ++ String.intercalate " " ((value :: values).map describe) ++ ">"))
  | .arity => pure (.integer (Int64.ofNat arguments.length))
  | .collect => do
    let values ← evaluateAll arguments
    pure (.array (value :: values))
  | .json => pure (.text value.json)
  | .bind => do
    let target ← arguments.headD (pure .null)
    modify fun engine => engine.setVariable space target.display value
    pure .null
  | .discard => pure .null
  | .keep => pure value

/-- Applies the operator `name`. One without a handler leaves the value as it is. -/
def applyOperator (space name : String) (value : Value) (arguments : List (Render Value)) :
    Render Value := do
  match ← operatorHandler? name with
  | some handler => applyAction space name handler.action value arguments
  | none => pure value

/-! ## Expressions -/

/-- Takes one step into a value and goes on with `next`; a step that fails is recorded and ends in nothing. -/
def stepInto (value key : Value) (next : Value → Render Value) : Render Value :=
  match value.step key with
  | .ok value => next value
  | .error problem => do
    record (.ofRuntime problem)
    pure .null

mutual

/-- Evaluates an expression. -/
def evaluate (space : String) : Expression → Render Value
  | ⟨operand, operators⟩ => do
    let value ← evaluateOperand space operand
    applyChain space operators value

/-- Applies a chain of operators to a value. -/
def applyChain (space : String) : List Operator → Value → Render Value
  | [], value => pure value
  | ⟨name, arguments⟩ :: rest, value => do
    let value ← applyOperator space name value (suspend space arguments)
    applyChain space rest value

/-- The actions that evaluate expressions. -/
def suspend (space : String) : List Expression → List (Render Value)
  | [] => []
  | expression :: rest => evaluate space expression :: suspend space rest

/-- Evaluates an operand. -/
def evaluateOperand (space : String) : Operand → Render Value
  | .text value => pure (.text value)
  | .number value => pure (.ofNumber value)
  | .null => pure .null
  | .word text => pure (.text text)
  | .call => pure .null
  | .reference ⟨explicit, name, attributes⟩ => do
    let target := resolveSpace space explicit
    match (← get).store.get? target name with
    | some value => follow space attributes value
    | none =>
      record (.ofRuntime (.undefinedVariable target name))
      pure .null

/-- Takes steps into a value. A computed key that is nothing ends in nothing. -/
def follow (space : String) : List Attribute → Value → Render Value
  | [], value => pure value
  | .key name :: rest, value => stepInto value (.text name) fun next => follow space rest next
  | .index digits :: rest, value => stepInto value (.text digits) fun next => follow space rest next
  | .computed expression :: rest, value => do
    let key ← evaluate space expression
    if key.isNull then pure .null
    else stepInto value key fun next => follow space rest next

end

/-- An operand without operators keeps its value. -/
theorem evaluate_ofOperand (space : String) (operand : Operand) :
    evaluate space (.ofOperand operand) = evaluateOperand space operand := by
  show evaluate space ⟨operand, []⟩ = _
  rw [evaluate]
  simp only [applyChain, bind_pure]

end TextTemplate
