import TextTemplate.Builtin

set_option autoImplicit false

/-! # Handlers

A function handler stands behind one or more tags, an operator handler behind one or more operators. What a
handler does is chosen from a fixed set of actions, so a handler is plain data; `Render` carries the actions
out. Only the question whether a tag has children is answered by a function, for it may depend on the tag and on
how often it was asked before. -/

namespace TextTemplate

/-! ## Functions -/

/-- What the tag of a function puts in its place. -/
inductive FunctionAction
  /-- Another template, named by the parameter `uri`. -/
  | templateAt
  /-- The left delimiter for the tag `ldelim`, the right one for any other tag. -/
  | delimiter
  /-- A fixed text. -/
  | constant (text : String)
  /-- The children between angle brackets. -/
  | wrap
  /-- The children, as many times as the parameter `times` says. -/
  | copies
  /-- The children once for each item of the array `in`, with the item bound to `item`. -/
  | each
  /-- A description of the tag and its evaluated parameters. -/
  | describe
  /-- Nothing; the parameters are bound as variables. -/
  | assign
  /-- Nothing; the variables that the parameters name are removed. -/
  | unassign
  /-- For each parameter, whether a variable of that name is set. -/
  | probe
  /-- The namespaces that a reference can resolve to. -/
  | showNamespaces
  /-- Both delimiters. -/
  | showDelimiters
  /-- Nothing; a warning and an error are recorded. -/
  | complain
  /-- The template named by `uri`, in the namespace named by `ns`. -/
  | templateIn
  /-- Nothing. -/
  | nothing
deriving BEq, DecidableEq, Repr

/-- A handler of function tags. -/
structure FunctionHandler where
  /-- The tags that the handler serves. -/
  names : List String
  /-- Tags of which it is fixed whether they have children. -/
  childTags : List (String × Bool)
  /-- Whether a tag has children, by the number of times that the handler was asked before. -/
  owns : Nat → String → Bool
  action : FunctionAction

namespace FunctionHandler

/-- The same answer to every question. -/
def always (answer : Bool) : Nat → String → Bool := fun _ _ => answer

/-- Answers given in turn, of which the last one repeats. Without answers no tag has children. -/
def inTurn (answers : List Bool) : Nat → String → Bool := fun asked _ =>
  answers.getD (min asked (answers.length - 1)) false

/-- The handler of the tag `include`. -/
def templates : FunctionHandler :=
  ⟨["include"], [("include", false)], always false, .templateAt⟩

/-- The handler of the tags `ldelim` and `rdelim`, which write the delimiters. -/
def delimiters : FunctionHandler :=
  ⟨["ldelim", "rdelim"], [("ldelim", false), ("rdelim", false)], always false, .delimiter⟩

end FunctionHandler

/-! ## Operators -/

/-- What an operator makes of the value it receives. -/
inductive OperatorAction
  /-- The built-in operator of the same name. -/
  | builtin
  /-- Its text with `text` behind it. -/
  | suffix (text : String)
  /-- Its text with an exclamation mark, in upper case. -/
  | shout
  /-- A description of the value and the evaluated arguments. -/
  | describe
  /-- The number of arguments. -/
  | arity
  /-- An array of the value and the evaluated arguments. -/
  | collect
  /-- The value as JSON text. -/
  | json
  /-- Nothing; the value is bound to the variable that the first argument names. -/
  | bind
  /-- Nothing. -/
  | discard
  /-- The value itself. -/
  | keep
deriving BEq, DecidableEq, Repr

/-- A handler of operators. -/
structure OperatorHandler where
  /-- The operators that the handler serves. -/
  names : List String
  action : OperatorAction
deriving BEq, DecidableEq, Repr

/-- The handler of the built-in operators. -/
def OperatorHandler.builtins : OperatorHandler := ⟨Builtin.all.map Builtin.name, .builtin⟩

/-! ## Loaders -/

/-- A handler of either kind. -/
inductive Handler
  | function (handler : FunctionHandler)
  | operator (handler : OperatorHandler)

/-- Makes a handler when it is first needed, from the parameter of its class. -/
abbrev Factory := Option String → Option Handler

/-- A handler made with a class parameter: the parameter replaces the text of a suffix. -/
def Handler.withParameter (parameter : Option String) : Handler → Handler
  | operator ⟨names, .suffix text⟩ => operator ⟨names, .suffix (parameter.getD text)⟩
  | handler => handler

/-- The factory that makes the same handler each time, or none. -/
def Factory.giving (handler? : Option Handler) : Factory := fun parameter =>
  handler?.map (Handler.withParameter parameter)

end TextTemplate
