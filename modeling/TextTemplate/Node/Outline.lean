import TextTemplate.Node
import TextTemplate.Text.Quoted

set_option autoImplicit false

/-! # Printed trees

`Node.outline` shows a tree to whoever writes templates: every part of it by name, one to a line, and indented by
its depth. An `Outline` is such a listing before it is indented. -/

namespace TextTemplate

/-! ## Listings -/

/-- A nested listing. -/
inductive Outline
  | atom (text : String)
  /-- Named parts in braces. -/
  | record (name : String) (parts : List (String × Outline))
  /-- Parts in parentheses. -/
  | variant (name : String) (parts : List Outline)
  /-- Parts in brackets. -/
  | list (parts : List Outline)
  /-- Entries in braces. -/
  | table (entries : List (String × Outline))

namespace Outline

/-- The start of a line at a depth. -/
def margin (depth : Nat) : String := String.ofList (List.replicate (4 * depth) ' ')

/-- Lines between two brackets; nothing is broken if there are no lines. -/
def bracketed (depth : Nat) (left right lines : String) : String :=
  if lines = "" then left ++ right else left ++ "\n" ++ lines ++ margin depth ++ right

mutual

/-- The listing from `depth` on, without the margin of its first line. -/
def print (depth : Nat) : Outline → String
  | atom text => text
  | record name parts => bracketed depth (name ++ " \x7b") "\x7d" (printEntries (depth + 1) parts)
  | variant name parts => bracketed depth (name ++ "(") ")" (printParts (depth + 1) parts)
  | list parts => bracketed depth "[" "]" (printParts (depth + 1) parts)
  | table entries => bracketed depth "\x7b" "\x7d" (printEntries (depth + 1) entries)

/-- Parts on lines of their own. -/
def printParts (depth : Nat) : List Outline → String
  | [] => ""
  | part :: rest => margin depth ++ part.print depth ++ ",\n" ++ printParts depth rest

/-- Named parts on lines of their own. -/
def printEntries (depth : Nat) : List (String × Outline) → String
  | [] => ""
  | (name, part) :: rest =>
    margin depth ++ name ++ ": " ++ part.print depth ++ ",\n" ++ printEntries depth rest

end

/-- A quoted text. -/
def quoted (text : String) : Outline := atom (Text.quoted text)

/-- A number. -/
def nat (n : Nat) : Outline := atom (toString n)

/-- A text that may be missing. -/
def optional : Option String → Outline
  | none => atom "None"
  | some text => variant "Some" [quoted text]

end Outline

/-! ## Listings of expressions -/

/-- The listing of a number. -/
def Number.outline : Number → Outline
  | integer value => .variant "Integer" [.atom (toString value.toInt)]
  | real value => .variant "Real" [.atom (Decimal.write .exact value)]

mutual

/-- The listing of an expression. -/
def Expression.outline : Expression → Outline
  | ⟨operand, operators⟩ =>
    .record "Expression" [("operand", operand.outline), ("operators", .list (Operator.outlines operators))]

/-- The listings of operators. -/
def Operator.outlines : List Operator → List Outline
  | [] => []
  | ⟨name, arguments⟩ :: rest =>
    .record "Operator" [("name", .quoted name), ("arguments", .list (Expression.outlines arguments))] ::
      Operator.outlines rest

/-- The listings of expressions. -/
def Expression.outlines : List Expression → List Outline
  | [] => []
  | expression :: rest => expression.outline :: Expression.outlines rest

/-- The listing of an operand. -/
def Operand.outline : Operand → Outline
  | .text value => .variant "Literal" [.variant "Text" [.quoted value]]
  | .number value => .variant "Literal" [.variant "Number" [value.outline]]
  | .null => .variant "Literal" [.atom "Null"]
  | .reference ⟨space, name, attributes⟩ =>
    .variant "Variable" [.record "VariableRef" [("namespace", .optional space), ("name", .quoted name),
      ("attributes", .list (Attribute.outlines attributes))]]
  | .word text => .variant "Text" [.quoted text]
  | .call => .atom "Pipeline"

/-- The listings of steps into a value. -/
def Attribute.outlines : List Attribute → List Outline
  | [] => []
  | .key name :: rest => .variant "MapKey" [.quoted name] :: Attribute.outlines rest
  | .index digits :: rest => .variant "Index" [.quoted digits] :: Attribute.outlines rest
  | .computed expression :: rest =>
    .variant "SubExpression" [expression.outline] :: Attribute.outlines rest

end

/-- The listing of the arguments of a tag. -/
def Arguments.outline (arguments : Arguments) : Outline :=
  .table (arguments.entries.map fun (name, expression) => (Text.quoted name, expression.outline))

/-! ## Listings of nodes -/

mutual

/-- The listing of a node. -/
def Node.outline : Node → Outline
  | .text content => .variant "Text" [.quoted content]
  | .expression value line =>
    .record "Variable" [("expression", value.outline), ("line", .nat line)]
  | .function name arguments children line =>
    .record "Function" [("name", .quoted name), ("arguments", arguments.outline),
      ("children", .list (Node.outlines children)), ("line", .nat line)]

/-- The listings of nodes. -/
def Node.outlines : List Node → List Outline
  | [] => []
  | node :: rest => node.outline :: Node.outlines rest

end

/-- The printed tree. -/
def Tree.print (tree : Tree) : String :=
  (Outline.record "Root" [("children", .list (Node.outlines tree.nodes))]).print 0

end TextTemplate
